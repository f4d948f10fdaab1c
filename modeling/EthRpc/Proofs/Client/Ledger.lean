-- SUMMARY: A request is sent for every uncached call, every led run and every retry that is counted, but for retries that are called off.
import EthRpc.Proofs.Client.Replay
import EthRpc.Proofs.Stage.Postings
import EthRpc.Proofs.Tracker.Consumers

/-!
# The ledger of requests

What the endpoint sees can be accounted for by the counters of a client: apart
from polls there is one request for each call of a method without a cache, one
for each run that is led, and one for each retry. A retry is counted before the
pause, however, so one that is called off after it is counted and never sent.
-/

namespace EthRpc

open Machine (Told postings)

/-! ## What programs post -/

/-- The replies to a command are no postings. -/
def Command.IsUnposted (c : Command) : Prop := ∀ a, (Told.reply c a).posting? = none

theorem Program.Consults.unposted {S : Nat → String → Program → Prop} {n : Nat} {p : Program}
    (h : p.Consults S n) : p.Within Command.IsUnposted fun _ _ _ => True := by
  have hconcludes {key : String} {r : Outcome} {p : Program} (h : p.Concludes key r) :
      p.Within Command.IsUnposted fun _ _ _ => True := by
    cases h with
    | returns => trivial
    | keeps _ hk => exact ⟨fun _ => rfl, fun u => by rw [hk u]; trivial⟩
  have hlate {p : Program} (h : p.Late) : p.Within Command.IsUnposted fun _ _ _ => True := by
    cases h with
    | shares hk => exact ⟨trivial, fun r => hconcludes (hk r).choose_spec⟩
    | concludes h => exact hconcludes h
  induction h with
  | asksId _ ih | asksHead _ ih => exact ⟨fun _ => rfl, ih⟩
  | looks hfound _ hmissing =>
    refine ⟨fun _ => rfl, fun found => ?_⟩
    cases found with
    | some v =>
      rw [hfound v]
      trivial
    | none => exact hlate hmissing
  | late h => exact hlate h

theorem Machine.Told.posting?_eq_none {S : Nat → String → Program → Prop} {d : Told}
    (h : d.Within Command.IsUnposted S) : d.posting? = none := by
  cases d with
  | reply c a => exact h a
  | _ => rfl

namespace Client

open Machine (Action TaskId Posting Calm Enumerates)

variable {methods : MethodTable}

/-- Some work is a request to a method without a cache. -/
def Work.IsNever (methods : MethodTable) : Work → Prop
  | .dispatch q => (methods.spec q.method).cache = .never
  | .call method _ => (methods.spec method).cache = .never
  | .query _ => False

section Program

variable {retry : RetrySettings} {q : Request} {ds : List Told} {r : Outcome} {w : Work}

theorem runProgram_balanced (h : (runProgram methods retry q).Plays ds (.done r)) :
    Balanced retry.interval ds :=
  Stage.blockRef_balanced (fun _ _ _ => Stage.retryOnEmpty_balanced Stage.inspector_sendsOnce) h

theorem Work.IsNever.balanced (hw : w.IsNever methods)
    (h : (w.program (stages methods retry)).Plays ds (.done r)) : Balanced retry.interval ds := by
  cases w with
  | dispatch q =>
    have hprogram : (Work.dispatch q).program (stages methods retry) = runProgram methods retry q :=
      program_of_never retry hw
    rw [hprogram] at h
    exact runProgram_balanced h
  | call method params =>
    obtain ⟨n, ds, rfl, hrest⟩ := Program.plays_ask_iff.1 h
    have hprogram : Stage.pipeline (stages methods retry) ⟨.number n, method, params⟩ =
      runProgram methods retry ⟨.number n, method, params⟩ := program_of_never retry hw
    rw [hprogram] at hrest
    exact (runProgram_balanced hrest).cons rfl
  | query q => cases hw

/-- All other work posts nothing itself. -/
theorem Work.unposted (hw : ¬w.IsNever methods) :
    (w.program (stages methods retry)).Within Command.IsUnposted fun _ _ _ => True := by
  cases w with
  | dispatch q => exact (program_consults retry hw).1.unposted
  | call method params =>
    exact ⟨fun _ => rfl, fun n => (program_consults (r := ⟨.number n, method, params⟩) retry hw).1.unposted⟩
  | query q => exact ⟨fun _ => rfl, fun _ => trivial⟩

end Program

/-! ## Accounts -/

variable {s : Settings} {actions : List Action} {t u : TaskId}

/-- A task has come to its end after a pause, as the head had gone back behind one that it was told
before. -/
def CallsOff (s : Settings) (actions : List Action) (t : TaskId) : Prop :=
  ∃ b a p ds now r under, b ++ [a] <+: actions ∧ (start s).Born t b a p ∧
    (start s).Books t b a p actions ds now (.done r) (.finished r) under ∧
    WentBack s.retry.interval (ds.map Told.plain)

/-- A task is at work on a request to a method without a cache. -/
def AtNever (methods : MethodTable) (s : Settings) (actions : List Action) (t : TaskId) : Prop :=
  ∃ w, Employs methods s actions t w ∧ w.IsNever methods

/-- How many requests a task has sent. -/
def sent (s : Settings) (actions : List Action) (t : TaskId) : Nat :=
  (((start s).run actions).requests.filter (·.1 = t)).length

/-- How many retries a task has counted. -/
def retried (s : Settings) (actions : List Action) (t : TaskId) : Nat :=
  ((start s).countings actions).count (t, .retries)

/-- A task that has called off a retry has counted it. -/
theorem CallsOff.retried_pos (h : CallsOff s actions t) : 0 < retried s actions t := by
  obtain ⟨b, a, p, ds, now, r, under, -, -, hbooks, hback⟩ := h
  have hlast := List.mem_of_getLast? hback.getLast?_eq
  rw [Machine.postings_plain] at hlast
  rw [retried, hbooks.retries]
  exact List.count_pos_iff.2 hlast

theorem CallsOff.lt_size (h : CallsOff s actions t) :
    t < ((start s).run actions).tasks.size := by
  obtain ⟨b, a, p, ds, now, r, under, -, -, hbooks, -⟩ := h
  exact Machine.lt_size_of_activity? hbooks.activity

section Balance

variable {b : List Action} {a : Action} {p : Program} {o : Outcome}

/-- A task that has come to its end keeps its books. -/
theorem exists_books (hborn : (start s).Born t b a p) (hb : b ++ [a] <+: actions)
    (hfinished : ((start s).run actions).activity? t = some (.finished o)) :
    ∃ ds now under, (start s).Books t b a p actions ds now (.done o) (.finished o) under := by
  obtain ⟨ds, now, q, old, under, hbooks⟩ := hborn.exists_books hb
  obtain rfl : .finished o = old := Option.some.inj (hfinished.symm.trans hbooks.activity)
  obtain ⟨rfl, -⟩ := hbooks.toCame.of_finished hfinished
  exact ⟨ds, now, under, hbooks⟩

/-- The balance of a task by what it was told on its course. -/
theorem balance_of_books {ds : List Told} {now : List Action} {under : List Machine.Event}
    (hbalanced : ∀ ds r, p.Plays ds (.done r) → Balanced s.retry.interval ds)
    (hbooks : (start s).Books t b a p actions ds now (.done o) (.finished o) under)
    [Decidable (WentBack s.retry.interval (ds.map Told.plain))] :
    sent s actions t + (if WentBack s.retry.interval (ds.map Told.plain) then 1 else 0) =
      1 + retried s actions t := by
  have hcount := (hbalanced _ _ hbooks.course.plays).count
  have hsent : sent s actions t = (postings ds).count .request := hbooks.toCame.requests
  rw [Machine.postings_plain] at hcount
  rw [hsent, retried, hbooks.retries]
  exact hcount

/-- A task that was created with a balanced program, and has come to its end, has sent one request
more than it has counted retries, unless it has called off the last one. -/
theorem balance_of_born (hborn : (start s).Born t b a p) (hb : b ++ [a] <+: actions)
    (hbalanced : ∀ ds r, p.Plays ds (.done r) → Balanced s.retry.interval ds)
    (hfinished : ((start s).run actions).activity? t = some (.finished o))
    [Decidable (CallsOff s actions t)] :
    sent s actions t + (if CallsOff s actions t then 1 else 0) = 1 + retried s actions t := by
  classical
  obtain ⟨ds, now, under, hbooks⟩ := exists_books hborn hb hfinished
  have hbalance := balance_of_books hbalanced hbooks
  have hoff : CallsOff s actions t ↔ WentBack s.retry.interval (ds.map Told.plain) := by
    constructor
    · rintro ⟨b', a', p', ds', now', r', under', hb', hborn', hbooks', hback'⟩
      -- The task may have been told other things on its course, but not of more requests.
      obtain rfl := hborn.unique hb hborn' hb'
      have hbalance' := balance_of_books hbalanced hbooks'
      rw [if_pos hback'] at hbalance'
      by_contra hnot
      rw [if_neg hnot] at hbalance
      omega
    · intro hback
      exact ⟨b, a, p, ds, now, o, under, hb, hborn, hbooks, hback⟩
  simpa only [hoff] using hbalance

/-- A task that posts nothing sends no requests and counts no retries. -/
theorem balance_of_unposted (hborn : (start s).Born t b a p) (hb : b ++ [a] <+: actions)
    (hp : p.Within Command.IsUnposted fun _ _ _ => True)
    (hfinished : ((start s).run actions).activity? t = some (.finished o)) :
    sent s actions t = 0 ∧ retried s actions t = 0 := by
  obtain ⟨ds, now, under, hbooks⟩ := exists_books hborn hb hfinished
  have hnone : postings ds = [] := by
    rw [postings, List.filterMap_eq_nil_iff]
    exact fun d hd => Told.posting?_eq_none ((hbooks.course.within hp).1 d hd)
  have hsent : sent s actions t = (postings ds).count .request := hbooks.toCame.requests
  rw [hsent, retried, hbooks.retries, hnone]
  exact ⟨rfl, rfl⟩

/-- A poll loop sends nothing but polls, and counts no retries. -/
theorem balance_of_pollLoop (hrole : ((start s).run actions).role? t = some .pollLoop) :
    sent s actions t = 0 ∧ retried s actions t = 0 := by
  have hnever {now : List Action} {p : Program} (hnow : now <+: actions) :
      ((start s).run now).activity? t ≠ some (.running p) := by
    intro hrunning
    obtain ⟨rest, rfl⟩ := hnow
    obtain ⟨role, hbefore⟩ := Machine.exists_role? hrunning
    have hsame := Machine.role?_run hbefore rest
    rw [← Machine.run_append, hrole] at hsame
    cases hsame
    rcases Machine.isLoop_or_isOver_of_role hbefore hrunning with ⟨_, _, hloop⟩ | hover
    · cases hloop
    · cases hover
  constructor
  · rw [sent, List.length_eq_zero_iff, List.filter_eq_nil_iff]
    rintro ⟨u, q⟩ hq hu
    obtain rfl : u = t := by simpa using hu
    obtain ⟨b, k, hb, hsending⟩ := Machine.exists_sends hq
    exact hnever ((List.prefix_append _ _).trans hb) hsending
  · rw [retried, List.count_eq_zero]
    intro hmem
    obtain ⟨b, a, hb, hcounting⟩ := Machine.exists_counting hmem
    obtain ⟨rfl, k, hcounts⟩ := Machine.counting?_eq_retries_iff.1 hcounting
    exact hnever ((List.prefix_append _ _).trans hb) hcounts

end Balance

/-! ## Everybody's balance -/

/-- A task that is about to share a run is a caller. -/
theorem role?_of_sharing {b : List Action} {i : Nat} {key : String} {run : Program}
    {k : Outcome → Program} (hserves : Serves methods s actions) (hb : b <+: actions)
    (hsharing : ((start s).run b).activity? t = some (.running (.share i key run k))) :
    ((start s).run b).role? t = some .caller := by
  obtain ⟨role, hrole⟩ := Machine.exists_role? hsharing
  cases role with
  | caller => exact hrole
  | pollLoop =>
    rcases Machine.isLoop_or_isOver_of_role hrole hsharing with ⟨_, _, hloop⟩ | hover
    · cases hloop
    · cases hover
  | run i' key' leader =>
    obtain ⟨b₀, p, hb₀, hborn, -, q, -, rfl⟩ := Machine.exists_born_of_role
      (fun p hp => hserves.within (hb.subset hp)) (fun _ _ _ => Shares.within) hrole
    have hwithin := Machine.keeps_of_running hborn.running hb₀ hsharing
      (fun _ _ => Program.Within.of_goes) (runProgram_within (S := fun _ _ _ => False) q)
    exact hwithin.1.elim

section Total

variable (hserves : Serves methods s actions) (hcalm : Calm actions)
  (hfinished : ∀ t w, Employs methods s actions t w →
    ∃ o, ((start s).run actions).activity? t = some (.finished o))

include hserves

/-- No task of a client counts a run by a command. -/
theorem not_counts_led {now : List Action} {k : Unit → Program} (hnow : now <+: actions) :
    ((start s).run now).activity? t ≠ some (.running (.ask (.count .led) k)) := by
  intro hcount
  have hwithin := Machine.within_of_running (fun p hp => hserves.within (hnow.subset hp))
    (fun _ _ _ => Shares.within) hcount
  rcases hwithin.1 _ rfl with hretries | hexhausted
  · cases hretries
  · cases hexhausted

theorem exists_employs (hrole : ((start s).run actions).role? t = some .caller) :
    ∃ w, Employs methods s actions t w := by
  obtain ⟨p, hlaunch⟩ := Machine.exists_launches_of_role hrole
  obtain ⟨w, rfl⟩ := hserves p hlaunch.mem
  exact ⟨w, hlaunch⟩

include hcalm hfinished

/-- If all callers come to an end and nothing crashes then all runs come to an end. -/
theorem exists_finished_of_role {i : Nat} {key : String} {leader : TaskId}
    (hrole : ((start s).run actions).role? u = some (.run i key leader)) :
    ∃ o, ((start s).run actions).activity? u = some (.finished o) := by
  obtain ⟨b, run, k, hb, rfl, hleads⟩ := Machine.exists_leads_of_role hrole
  have hbefore := (List.prefix_append _ _).trans hb
  have hcaller := role?_of_sharing hserves hbefore hleads.activity
  obtain ⟨w, hw⟩ : ∃ w, Employs methods s actions leader w := by
    obtain ⟨rest, rfl⟩ := hbefore
    refine exists_employs hserves ?_
    rw [Machine.run_append]
    exact Machine.role?_run hcaller rest
  obtain ⟨o, ho⟩ := hfinished leader w hw
  exact hleads.exists_finished hb hcalm ho

/-- Once all is over, a task has sent one request for its work if the cache is not used for it, one
if it is a run, and one for each retry that it has counted and not called off. -/
theorem balance_of_task (ht : t < ((start s).run actions).tasks.size)
    [Decidable (CallsOff s actions t)] [Decidable (AtNever methods s actions t)] :
    sent s actions t + (if CallsOff s actions t then 1 else 0) =
      (if AtNever methods s actions t then 1 else 0) +
        (if (((start s).run actions).leader? t).isSome then 1 else 0) + retried s actions t := by
  obtain ⟨old, hold⟩ := Machine.exists_activity? ht
  obtain ⟨role, hrole⟩ := Machine.exists_role? hold
  have hquiet (hzero : sent s actions t = 0 ∧ retried s actions t = 0) :
      sent s actions t + (if CallsOff s actions t then 1 else 0) = retried s actions t := by
    have hnot : ¬CallsOff s actions t := fun h => Nat.ne_of_gt h.retried_pos hzero.2
    rw [if_neg hnot, hzero.1, hzero.2]
  have hcaller (h : AtNever methods s actions t) : role = .caller := by
    obtain ⟨w, hw, -⟩ := h
    have hrole' := hw.role?
    rw [hrole] at hrole'
    exact Option.some.inj hrole'
  cases role with
  | caller =>
    have hlead : ((start s).run actions).leader? t = none := by simp [Machine.leader?, hrole]
    simp only [hlead, Option.isSome_none, Bool.false_eq_true, if_false, Nat.add_zero]
    by_cases hnever : AtNever methods s actions t
    · rw [if_pos hnever]
      obtain ⟨w, hw, hwork⟩ := hnever
      obtain ⟨b, hb, hborn⟩ := hw.born
      obtain ⟨o, ho⟩ := hfinished t w hw
      exact balance_of_born hborn hb (fun _ _ => hwork.balanced) ho
    · obtain ⟨w, hw⟩ := exists_employs hserves hrole
      obtain ⟨b, hb, hborn⟩ := hw.born
      obtain ⟨o, ho⟩ := hfinished t w hw
      have hwork : ¬w.IsNever methods := fun h => hnever ⟨w, hw, h⟩
      rw [if_neg hnever, Nat.zero_add]
      exact hquiet (balance_of_unposted hborn hb (Work.unposted hwork) ho)
  | pollLoop =>
    have hlead : ((start s).run actions).leader? t = none := by simp [Machine.leader?, hrole]
    have hnever : ¬AtNever methods s actions t := fun h => by cases hcaller h
    simp only [hlead, hnever, Option.isSome_none, Bool.false_eq_true, if_false, Nat.zero_add]
    exact hquiet (balance_of_pollLoop hrole)
  | run i key leader =>
    have hlead : (((start s).run actions).leader? t).isSome :=
      Machine.isSome_leader?_iff.2 ⟨i, key, leader, hrole⟩
    have hnever : ¬AtNever methods s actions t := fun h => by cases hcaller h
    obtain ⟨b, p, hb, hborn, -, q, -, rfl⟩ := Machine.exists_born_of_role
      (fun p hp => hserves.within hp) (fun _ _ _ => Shares.within) hrole
    obtain ⟨o, ho⟩ := exists_finished_of_role hserves hcalm hfinished hrole
    rw [if_neg hnever, if_pos hlead, Nat.zero_add]
    exact balance_of_born hborn hb (fun _ _ => runProgram_balanced) ho

end Total

/-- If every caller comes to an end and nothing crashes, then there is one request that is no poll
for each call of a method without a cache, one for each run that is led, and one for each retry that
is counted, but for the retries that are called off since the head has gone back. So it is for every
task on its own. What is counted as led are the runs that are there. -/
theorem requests_balance (hserves : Serves methods s actions) (hcalm : Calm actions)
    (hfinished : ∀ t w, Employs methods s actions t w →
      ∃ o, ((start s).run actions).activity? t = some (.finished o)) :
    let m := (start s).run actions
    ∃ nevers runs off, Enumerates nevers (AtNever methods s actions) ∧
      Enumerates runs (fun t => ∃ i key leader, m.role? t = some (.run i key leader)) ∧
      Enumerates off (CallsOff s actions) ∧
      m.requests.length + off.length = nevers.length + m.tally.led + m.tally.retries ∧
      m.tally.led = runs.length ∧
      ∀ t < m.tasks.size,
        sent s actions t + off.count t = nevers.count t + runs.count t + retried s actions t := by
  intro m
  classical
  have hlead : m.tally.led = ∑ t ∈ Finset.range m.tasks.size, if (m.leader? t).isSome then 1 else 0 :=
    Machine.led_eq_sum fun _ _ _ hnow => not_counts_led hserves hnow
  obtain ⟨nevers, hnevers, hneversLength⟩ := Machine.exists_enumerates
    (P := AtNever methods s actions) (n := m.tasks.size) fun t ⟨w, hw, _⟩ =>
      Machine.lt_size_of_role? hw.role?
  obtain ⟨runs, hruns, hrunsLength⟩ := Machine.exists_enumerates
    (P := fun t => (m.leader? t).isSome) (n := m.tasks.size) fun t ht => by
      obtain ⟨i, key, leader, hrole⟩ := Machine.isSome_leader?_iff.1 ht
      exact Machine.lt_size_of_role? hrole
  obtain ⟨off, hoff, hoffLength⟩ := Machine.exists_enumerates
    (P := CallsOff s actions) (n := m.tasks.size) fun t ht => ht.lt_size
  have htask (t : TaskId) (ht : t < m.tasks.size) :=
    balance_of_task hserves hcalm hfinished ht
  refine ⟨nevers, runs, off, hnevers, ⟨hruns.nodup, fun t => ?_⟩, hoff, ?total, ?led, ?each⟩
  · rw [hruns.mem_iff, Machine.isSome_leader?_iff]
  case total =>
    calc m.requests.length + off.length
        = ∑ t ∈ Finset.range m.tasks.size,
            (sent s actions t + if CallsOff s actions t then 1 else 0) := by
          rw [Finset.sum_add_distrib, ← hoffLength]
          exact congrArg (· + off.length) Machine.requests_eq_sum
      _ = ∑ t ∈ Finset.range m.tasks.size, ((if AtNever methods s actions t then 1 else 0) +
            (if (m.leader? t).isSome then 1 else 0) + retried s actions t) :=
          Finset.sum_congr rfl fun t ht => htask t (Finset.mem_range.1 ht)
      _ = nevers.length + m.tally.led + m.tally.retries := by
          rw [Finset.sum_add_distrib, Finset.sum_add_distrib, ← hneversLength, ← hlead]
          exact congrArg (nevers.length + m.tally.led + ·) Machine.retries_eq_sum.symm
  case led => exact hlead.trans hrunsLength.symm
  case each =>
    intro t ht
    rw [hoff.count_eq, hnevers.count_eq, hruns.count_eq]
    exact htask t ht

/-! ### Two retries -/

open Stage (balanceAtHundred retriedBalances)

/-- Retries pause for longer than a head stays fresh. -/
def patient : Settings := { Settings.default with retry := ⟨10, .ofSeconds 30⟩ }

/-- The head is 100, and the balance at block 100 comes back empty. After the pause the head is
polled again, and a node reports the given one. -/
def pausesUntil (h : BlockHead) : List Action :=
  [.launch (askTracker .latest), .step 0, .step 0,
    .answer 0 (.ok (BlockHead.toJson ⟨100, .ofNat 100⟩)), .step 0, .step 0,
    .launch ((Work.dispatch balanceAtHundred).program (stages retriedBalances patient.retry)),
    .step 1, .step 1, .step 2, .step 2, .answer 2 (.ok .null), .step 2, .step 2, .step 2,
    .pass (.ofSeconds 30), .fire 2, .step 2, .step 2, .answer 2 (.ok h.toJson), .step 2]

/-- The head has moved on, and the balance is asked for again. -/
def asksAgain : List Action :=
  pausesUntil ⟨101, .ofNat 101⟩ ++
    [.step 2, .answer 2 (.ok (.string "0x10")), .step 2, .step 1, .step 1]

/-- The head has gone back, and the empty result is returned. -/
def givesUp : List Action := pausesUntil ⟨99, .ofNat 99⟩ ++ [.step 2, .step 1]

/-- Both callers of such a run come with work for the client, and nothing crashes in it. -/
theorem serves_pausesUntil (h : BlockHead) (rest : List Action)
    (hlaunch : ∀ p, .launch p ∉ rest) (hcrash : Calm rest) :
    Serves retriedBalances patient (pausesUntil h ++ rest) ∧ Calm (pausesUntil h ++ rest) := by
  constructor
  · intro p hp
    rcases List.mem_append.1 hp with hp | hp
    · simp only [pausesUntil, List.mem_cons, List.not_mem_nil, or_false, reduceCtorEq, false_or,
        Action.launch.injEq] at hp
      rcases hp with rfl | rfl
      · exact ⟨.query .latest, rfl⟩
      · exact ⟨.dispatch balanceAtHundred, rfl⟩
    · exact absurd hp (hlaunch p)
  · intro t ht
    rcases List.mem_append.1 ht with ht | ht
    · simp [pausesUntil] at ht
    · exact hcrash t ht

/-- If the first two tasks have come to their ends, and there is one run besides, then all callers
have. -/
theorem finished_of_three {rest : List Action} {o o' : Outcome} {i : Nat} {key : String}
    {leader : TaskId} (hsize : ((start patient).run rest).tasks.size = 3)
    (hfirst : ((start patient).run rest).activity? 0 = some (.finished o))
    (hsecond : ((start patient).run rest).activity? 1 = some (.finished o'))
    (hrun : ((start patient).run rest).role? 2 = some (.run i key leader)) (t : TaskId) (w : Work)
    (hw : Employs retriedBalances patient rest t w) :
    ∃ o, ((start patient).run rest).activity? t = some (.finished o) := by
  have hrole := hw.role?
  have ht := Machine.lt_size_of_role? hrole
  match t with
  | 0 => exact ⟨o, hfirst⟩
  | 1 => exact ⟨o', hsecond⟩
  | 2 =>
    rw [hrun] at hrole
    cases hrole
  | t + 3 =>
    rw [hsize] at ht
    exact absurd ht (Nat.not_lt.2 (Nat.le_add_left 3 t))

set_option maxRecDepth 4000 in
/-- The retry is made, and the books balance. -/
theorem requests_balance_of_asksAgain :
    let m := (start patient).run asksAgain
    (∃ nevers runs off, Enumerates nevers (AtNever retriedBalances patient asksAgain) ∧
      Enumerates runs (fun t => ∃ i key leader, m.role? t = some (.run i key leader)) ∧
      Enumerates off (CallsOff patient asksAgain) ∧
      m.requests.length + off.length = nevers.length + m.tally.led + m.tally.retries ∧
      m.tally.led = runs.length ∧
      ∀ t < m.tasks.size, sent patient asksAgain t + off.count t =
        nevers.count t + runs.count t + retried patient asksAgain t) ∧
    m.requests.length = 2 ∧ m.tally.led = 1 ∧ m.tally.retries = 1 := by
  intro m
  obtain ⟨hserves, hcalm⟩ := serves_pausesUntil ⟨101, .ofNat 101⟩
    [.step 2, .answer 2 (.ok (.string "0x10")), .step 2, .step 1, .step 1] (by simp) (by simp [Calm])
  exact ⟨requests_balance hserves hcalm (finished_of_three rfl rfl rfl rfl), rfl, rfl, rfl⟩

/-- A task at work on a request to a method without a cache has sent something when it is over. -/
theorem AtNever.sent_pos {o : Outcome} (h : AtNever methods s actions t)
    (ho : ((start s).run actions).activity? t = some (.finished o)) : 0 < sent s actions t := by
  classical
  obtain ⟨w, hw, hwork⟩ := h
  obtain ⟨b, hb, hborn⟩ := hw.born
  have hbalance := balance_of_born hborn hb (fun _ _ => hwork.balanced) ho
  split at hbalance
  next hoff =>
    have hpos := hoff.retried_pos
    omega
  next => omega

set_option maxRecDepth 4000 in
/-- Nobody calls a method without a cache there. -/
theorem not_atNever_of_givesUp (t : TaskId) : ¬AtNever retriedBalances patient givesUp t := by
  intro hnever
  have hrole := hnever.choose_spec.1.role?
  match t with
  | 0 => exact absurd (hnever.sent_pos (o := .ok (BlockHead.toJson ⟨100, .ofNat 100⟩)) rfl) (by decide)
  | 1 => exact absurd (hnever.sent_pos (o := .ok .null) rfl) (by decide)
  | 2 => cases hrole
  | t + 3 => exact absurd (Machine.lt_size_of_role? hrole) (Nat.not_lt.2 (Nat.le_add_left 3 t))

set_option maxRecDepth 4000 in
/-- There is no call of a method without a cache, one run is led and one retry is counted. There is only
one request, as the head has gone back and the retry is not made. -/
theorem request_missing_of_givesUp :
    let m := (start patient).run givesUp
    Serves retriedBalances patient givesUp ∧ Calm givesUp ∧
    (∀ t w, Employs retriedBalances patient givesUp t w →
      ∃ o, m.activity? t = some (.finished o)) ∧
    Enumerates [] (AtNever retriedBalances patient givesUp) ∧
    m.requests = [(2, balanceAtHundred)] ∧ m.tally.led = 1 ∧ m.tally.retries = 1 ∧
    m.requests.length ≠ 0 + m.tally.led + m.tally.retries := by
  intro m
  obtain ⟨hserves, hcalm⟩ := serves_pausesUntil ⟨99, .ofNat 99⟩ [.step 2, .step 1]
    (by simp) (by simp [Calm])
  have hnevers : Enumerates [] (AtNever retriedBalances patient givesUp) :=
    ⟨List.nodup_nil, fun t => iff_of_false List.not_mem_nil (not_atNever_of_givesUp t)⟩
  refine ⟨hserves, hcalm, finished_of_three rfl rfl rfl rfl, hnevers, rfl, rfl, rfl, ?_⟩
  exact Nat.ne_of_lt Nat.one_lt_two

end Client

end EthRpc
