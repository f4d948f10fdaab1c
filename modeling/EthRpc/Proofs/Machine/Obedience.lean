-- SUMMARY: If all programs obey their pledges, then in every run all tasks do what is pledged for them.
import EthRpc.Proofs.Block.Head
import EthRpc.Proofs.Machine.Caches
import EthRpc.Proofs.Machine.SharedRuns
import EthRpc.Proofs.Program.Obeys

/-!
# Obedience

Callers come with programs that obey their pledges, given facts that cover what
the record of the whole run tells. Then at every moment all that tasks stored
was pledged, and so is all that they return. The invariant says of each task what
it still owes in what it is doing.
-/

namespace EthRpc.Machine

/-- What the record says that came from outside; all polled heads fit into 64 bits. -/
def upstream (m : Machine) : Upstream where
  answered q v := m.Exchanged q (.ok v)
  reported h := m.Reported h ∧ h.number < 1 <<< 64

/-- All that came from outside is among what may come from there. -/
structure Covers (u : Upstream) (m : Machine) : Prop where
  answered : ∀ {q : Request} {v : Json}, m.upstream.answered q v → u.answered q v
  reported : ∀ {h : BlockHead}, m.upstream.reported h → u.reported h

theorem covers_self (m : Machine) : Covers m.upstream m := ⟨id, id⟩

theorem Covers.of_suffix {u : Upstream} {m m' : Machine} (h : Covers u m')
    (hlog : m.log <:+ m'.log) : Covers u m where
  answered he := h.answered (Exchanged.of_suffix hlog he)
  reported hr := h.reported ⟨hr.1.of_suffix hlog, hr.2⟩

/-- What holds in every run, whatever the programs. -/
structure Regular (m : Machine) : Prop where
  orderly : m.Orderly
  faithful : m.Faithful
  backed : m.Backed

theorem regular_start (settings : Tracker.Settings) (capacities : List Nat) (tables : Nat) :
    (start settings capacities tables).Regular :=
  ⟨orderly_start _ _ _, faithful_start _ _ _, backed_start _ _ _⟩

theorem Regular.act {m : Machine} (hm : m.Regular) (a : Action) : (m.act a).Regular :=
  ⟨hm.orderly.act a, hm.faithful.act a, hm.backed.act a⟩

/-! ## What tasks owe -/

/-- A seeker goes on with any answer to its question; a poll loop just ends. -/
def Seeker.Obeys (F : Facts) (P : Pledge) : Seeker → Prop
  | .query q k => ∀ a, F.Allows (.query q) a → (k a).Obeys F P
  | .loop _ _ => P.returns .null

/-- Go on with any outcome that a shared run may have. -/
def Awaits (F : Facts) (P : Pledge) (m : Machine) (run : TaskId) (k : Outcome → Program) : Prop :=
  ∃ i key leader, m.role? run = some (.run i key leader) ∧
    ∀ r, F.Shares i key r → (k r).Obeys F P

/-- What a task will still do is as pledged. -/
def Activity.Obeys (F : Facts) (P : Pledge) (m : Machine) : Activity → Prop
  | running p | sleeping _ p => p.Obeys F P
  | calling q k => ∀ r, F.Allows (.send q) r → (k r).Obeys F P
  | joined run k | leading run k => m.Awaits F P run k
  | seeking s | queued s | admitted s | polling _ s | polled _ s | pausing _ s => s.Obeys F P
  | finished r => ∀ v, r = .ok v → P.returns v
  | crashed | cancelled => True

/-- What is pledged for a task: by its caller, or by those who share its run. -/
def pledge (F : Facts) (P : TaskId → Pledge) (t : TaskId) : Role → Pledge
  | .caller => P t
  | .run i key _ => .only (F.shared i key)
  | .pollLoop => .only fun _ => True

/-- What some task may keep is among the facts about caches. -/
def Expects (F : Facts) (P : TaskId → Pledge) : Prop :=
  ∀ t i key v, (P t).keeps i key v → F.cached i key v

/-- All tasks do what is pledged for them, and did so far. -/
structure Obedient (F : Facts) (P : TaskId → Pledge) (m : Machine) : Prop where
  tasks : ∀ {t role a}, m.role? t = some role → m.activity? t = some a →
    a.Obeys F (pledge F P t role) m
  stored : ∀ {t i key v}, m.Stored t i key v → (P t).keeps i key v
  heads : ∀ {h}, m.tracker.head? = some h → F.reported h

theorem obedient_start (F : Facts) (P : TaskId → Pledge) (settings : Tracker.Settings)
    (capacities : List Nat) (tables : Nat) :
    Obedient F P (start settings capacities tables) where
  tasks h := by cases h
  stored := by
    rintro t i key v ⟨time, h⟩
    cases h
  heads h := by cases h

section Persist

variable {F : Facts} {P : Pledge} {m : Machine} {old : Activity}

theorem Seeker.Obeys.stop {s : Seeker} (h : s.Obeys F P) : s.stop.Obeys F P := by
  cases s <;> exact h

theorem Awaits.act {run : TaskId} {k : Outcome → Program} (h : m.Awaits F P run k) (a : Action) :
    (m.act a).Awaits F P run k := by
  obtain ⟨i, key, leader, hrole, hk⟩ := h
  exact ⟨i, key, leader, role?_act hrole a, hk⟩

/-- What a task owes does not change by what others do. -/
theorem Activity.Obeys.act (h : old.Obeys F P m) (a : Action) : old.Obeys F P (m.act a) := by
  cases old with
  | joined run k | leading run k => exact Awaits.act h a
  | _ => exact h

theorem Activity.Obeys.stop (h : old.Obeys F P m) : old.stop.Obeys F P m := by
  cases old with
  | seeking s | queued s | admitted s | polling _ s | polled _ s | pausing _ s =>
    exact Seeker.Obeys.stop h
  | _ => exact h

theorem Looks.obeys {s : Seeker} (hl : m.Looks old s) (h : old.Obeys F P m) : s.Obeys F P := by
  cases hl <;> exact h

end Persist

/-! ## One step -/

namespace Obedient

variable {F : Facts} {P : TaskId → Pledge} {m : Machine} {a : Action}

theorem answer_allowed (hm : Obedient F P m) {q : Query} {r : q.Answer}
    (h : m.tracker.answer? m.isRunning m.now q = some r) : F.Allows (.query q) r := by
  cases q with
  | latest =>
    intro head heq
    cases heq
    exact hm.heads (Tracker.head?_of_answer? h)
  | check => cases h
  | ifBehind n =>
    simp only [Tracker.answer?] at h
    split at h
    · cases h
    · cases h
      intro head heq
      cases heq

/-- Whatever is stored is stored as pledged, so a cache gives what may be expected. -/
theorem cached (hm : Obedient F P m) (hregular : m.Regular)
    (hkept : Expects F P) {i : Nat} {key : String} {v : Json} {cache : Lru Json}
    (h : m.caches[i]?.bind (·.get? key) = some (v, cache)) :
    F.cached i key v := by
  obtain ⟨old, hcache, hget⟩ := Option.bind_eq_some_iff.1 h
  obtain ⟨t, ht⟩ := hregular.backed.stored hcache (Lru.mem_of_get? hget)
  exact hkept t i key v (hm.stored ht)

theorem reply_allowed (hm : Obedient F P m) (hregular : m.Regular)
    (hkept : Expects F P) {c : Command} {r : c.Reply} (h : m.Replies c r) : F.Allows c r := by
  cases h with
  | known h => exact hm.answer_allowed h
  | currentHead => exact fun head hhead => hm.heads hhead
  | hit h =>
    intro v hv
    cases hv
    exact hm.cached hregular hkept h
  | miss =>
    intro v hv
    cases hv
  | _ => trivial

/-- What a poll reports may be told to who asked for it. -/
theorem report_allowed (hcovers : Covers F.toUpstream (m.act (.step t))) {q : Query}
    {k : q.Answer → Program} {r : Outcome}
    (hold : m.activity? t = some (.polled r (.query q k))) :
    F.Allows (.query q) (q.report (Tracker.polledHead r)) := by
  have hreported : ∀ h, Tracker.polledHead r = .ok h → F.reported h := fun h hr =>
    hcovers.reported ⟨reported_of_polled hold hr, Tracker.number_lt_of_polledHead hr⟩
  cases q with
  | latest => exact hreported
  | check => exact hreported
  | ifBehind n =>
    intro h heq
    cases hr : Tracker.polledHead r with
    | error e =>
      rw [hr] at heq
      cases heq
    | ok head =>
      rw [hr] at heq
      cases heq
      exact hreported _ hr

/-- The outcome of a run that ends is one that it may share. -/
theorem shares_of_endsRun (hm : Obedient F P m) {run leader : TaskId} {i : Nat} {key : String}
    {r r' : Outcome} (hrole : m.role? run = some (.run i key leader)) (h : m.EndsRun a run r r') :
    F.Shares i key r ∧ F.Shares i key r' := by
  cases h with
  | finished h => exact ⟨hm.tasks hrole h, hm.tasks hrole h⟩
  | crashed =>
    constructor
    all_goals
      intro v hv
      cases hv

/-! ### Tasks over a step -/

/-- A task that takes its own step does as pledged. -/
theorem obeys_of_advances (hm : Obedient F P m) (hregular : m.Regular)
    (hkept : Expects F P) {t : TaskId} {Q : Pledge} {old new : Activity}
    (hcovers : Covers F.toUpstream (m.act (.step t))) (hactivity : m.activity? t = some old)
    (hold : old.Obeys F Q m) (h : m.Advances old new) :
    new.Obeys F Q (m.act (.step t)) := by
  cases h with
  | finish => exact hold
  | reply hr => exact hold.2 _ (hm.reply_allowed hregular hkept hr)
  | send => exact hold.2
  | sleep => exact hold.2 () trivial
  | inquire => exact hold.2
  | @join i key p k e hs =>
    obtain ⟨he, rfl⟩ := hregular.orderly.sharedRun?_eq_some_iff.1 hs
    obtain ⟨⟨leader, hrole⟩, -⟩ := hregular.orderly.listed he
    exact ⟨i, e.key, leader, role?_act hrole _, hold.2⟩
  | @lead i key p k hs =>
    have hspawned : m.spawned? (.step t) = some ⟨.run i key t, .running p⟩ := by
      simp [spawned?, hactivity, hs]
    exact ⟨i, key, t, role?_act_of_fresh hspawned, hold.2⟩
  | wait => exact hold
  | learn hl ha => exact hl.obeys hold _ (hm.answer_allowed ha)
  | poll hl => exact hl.obeys hold
  | give hl =>
    intro v hv
    cases hv
    exact hl.obeys hold
  | digest => exact hold _ (report_allowed hcovers hactivity)
  | pause => exact hold
  | wake =>
    intro v hv
    cases hv
    exact hold

/-- Whatever happens to a task, it does as pledged. -/
theorem obeys_of_moves (hm : Obedient F P m) (hregular : m.Regular)
    (hkept : Expects F P) (hcovers : Covers F.toUpstream (m.act a)) {t : TaskId} {Q : Pledge}
    {old new : Activity} (hactivity : m.activity? t = some old) (hold : old.Obeys F Q m)
    (h : Moves m a t old new) :
    new.Obeys F Q (m.act a) := by
  cases h with
  | stay => exact hold.act a
  | own hadv => exact hm.obeys_of_advances hregular hkept hcovers hactivity hold hadv
  | @answered _ q k r =>
    refine hold r ?_
    rintro v rfl
    exact hcovers.answered (hregular.faithful.exchanged hactivity _)
  | informed | awake | again | admitted => exact hold
  | crashed | cancelled => trivial
  | stopped => exact hold.stop.act _
  | heard hend =>
    obtain ⟨i, key, leader, hrole, hk⟩ := hold
    exact hk _ (hm.shares_of_endsRun hrole hend).1
  | returned hend =>
    obtain ⟨i, key, leader, hrole, hk⟩ := hold
    exact hk _ (hm.shares_of_endsRun hrole hend).2

/-- A task that is created has pledged what it owes. -/
theorem obeys_of_spawns (hm : Obedient F P m) (hlaunch : ∀ p, a = .launch p →
    p.Obeys F (P m.tasks.size)) {role : Role} {new : Activity} (h : m.Spawns a ⟨role, new⟩) :
    new.Obeys F (pledge F P m.tasks.size role) (m.act a) := by
  cases h with
  | caller => exact hlaunch _ rfl
  | run hold hs =>
    obtain ⟨role, hrole⟩ := exists_role? hold
    exact (hm.tasks hrole hold).1
  | loop => trivial

theorem tasks_act (hm : Obedient F P m) (hregular : m.Regular)
    (hkept : Expects F P) (hcovers : Covers F.toUpstream (m.act a))
    (hlaunch : ∀ p, a = .launch p → p.Obeys F (P m.tasks.size))
    {t : TaskId} {role : Role} {new : Activity} (hrole : (m.act a).role? t = some role)
    (hnew : (m.act a).activity? t = some new) : new.Obeys F (pledge F P t role) (m.act a) := by
  rcases activity?_act_cases hnew with ⟨old, hold, hmoves⟩ | ⟨rfl, role', hs⟩
  · rw [(effect_act m a).role t (lt_size_of_activity? hold)] at hrole
    exact hm.obeys_of_moves hregular hkept hcovers hold (hm.tasks hrole hold) hmoves
  · rw [role?_act_of_fresh hs] at hrole
    cases hrole
    exact hm.obeys_of_spawns hlaunch (spawns_of_spawned? hs)

/-! ### Everything over a step -/

theorem stored_act (hm : Obedient F P m) {t : TaskId} {i : Nat} {key : String} {v : Json}
    (h : (m.act a).Stored t i key v) : (P t).keeps i key v := by
  rcases Machine.stored_act h with hearlier | ⟨-, k, hold⟩
  · exact hm.stored hearlier
  · obtain ⟨role, hrole⟩ := exists_role? hold
    have hkeeps := (hm.tasks hrole hold).1
    cases role with
    | caller => exact hkeeps
    | run | pollLoop => exact hkeeps.elim

theorem heads_act (hm : Obedient F P m) (hcovers : Covers F.toUpstream (m.act a)) {h : BlockHead}
    (hhead : (m.act a).tracker.head? = some h) : F.reported h := by
  rw [(effect_act m a).tracker] at hhead
  unfold trackerAfter at hhead
  split at hhead
  next r hend =>
    cases hpolled : Tracker.polledHead r with
    | error e =>
      rw [hpolled] at hhead
      exact hm.heads hhead
    | ok head =>
      have hreported : F.reported head := by
        unfold endsPoll? at hend
        split at hend
        next t =>
          split at hend
          next hold =>
            cases hend
            exact hcovers.reported ⟨reported_of_polled hold hpolled,
              Tracker.number_lt_of_polledHead hpolled⟩
          next => cases hend
        next => cases hend
      rw [hpolled] at hhead
      rcases Tracker.head?_observe hhead with rfl | hsame
      · exact hreported
      · exact hm.heads hsame
  next =>
    split at hhead
    · exact hm.heads hhead
    · exact hm.heads hhead

theorem act (hm : Obedient F P m) (hregular : m.Regular)
    (hkept : Expects F P) (hcovers : Covers F.toUpstream (m.act a))
    (hlaunch : ∀ p, a = .launch p → p.Obeys F (P m.tasks.size)) : Obedient F P (m.act a) where
  tasks := hm.tasks_act hregular hkept hcovers hlaunch
  stored := hm.stored_act
  heads := hm.heads_act hcovers

end Obedient

/-! ## Runs -/

/-- In a run of these actions, a task is launched with a program. -/
def Launches (m : Machine) (actions : List Action) (t : TaskId) (p : Program) : Prop :=
  ∃ before after, actions = before ++ .launch p :: after ∧ (m.run before).tasks.size = t

section Launches

variable {m : Machine} {a : Action} {actions : List Action} {t : TaskId} {p p' : Program}

theorem Launches.mem (h : m.Launches actions t p) : .launch p ∈ actions := by
  obtain ⟨before, after, rfl, -⟩ := h
  exact List.mem_append_right _ List.mem_cons_self

theorem launches_cons :
    m.Launches (a :: actions) t p ↔
      (a = .launch p ∧ t = m.tasks.size) ∨ (m.act a).Launches actions t p := by
  constructor
  · rintro ⟨before, after, heq, rfl⟩
    cases before with
    | nil =>
      cases heq
      exact .inl ⟨rfl, rfl⟩
    | cons b before =>
      cases heq
      exact .inr ⟨before, after, rfl, rfl⟩
  · rintro (⟨rfl, rfl⟩ | ⟨before, after, rfl, rfl⟩)
    · exact ⟨[], actions, rfl, rfl⟩
    · exact ⟨a :: before, after, rfl, rfl⟩

theorem size_le_size_act (m : Machine) (a : Action) : m.tasks.size ≤ (m.act a).tasks.size := by
  rw [(effect_act m a).size]
  exact Nat.le_add_right _ _

theorem Launches.size_le (h : m.Launches actions t p) : m.tasks.size ≤ t := by
  induction actions generalizing m with
  | nil =>
    obtain ⟨before, after, heq, -⟩ := h
    cases before <;> cases heq
  | cons a actions ih =>
    rcases launches_cons.1 h with ⟨-, rfl⟩ | h
    · exact Nat.le_refl _
    · exact Nat.le_trans (size_le_size_act m a) (ih h)

/-- A task is launched once. -/
theorem Launches.unique (h : m.Launches actions t p) (h' : m.Launches actions t p') : p = p' := by
  induction actions generalizing m with
  | nil =>
    obtain ⟨before, after, heq, -⟩ := h
    cases before <;> cases heq
  | cons a actions ih =>
    have hlater : ∀ {q q'}, a = .launch q → (m.act a).Launches actions m.tasks.size q' → False := by
      rintro q q' rfl hlater
      have hsize := hlater.size_le
      rw [(effect_act m (.launch q)).size] at hsize
      exact Nat.lt_irrefl _ hsize
    rcases launches_cons.1 h with ⟨ha, rfl⟩ | h
    · rcases launches_cons.1 h' with ⟨ha', -⟩ | h'
      · rw [ha] at ha'
        cases ha'
        rfl
      · exact (hlater ha h').elim
    · rcases launches_cons.1 h' with ⟨ha', rfl⟩ | h'
      · exact (hlater ha' h).elim
      · exact ih h h'

theorem role?_run {role : Role} (h : m.role? t = some role) (actions : List Action) :
    (m.run actions).role? t = some role := by
  induction actions generalizing m with
  | nil => exact h
  | cons a rest ih => exact ih (role?_act h a)

theorem Launches.role? (h : m.Launches actions t p) :
    (m.run actions).role? t = some .caller := by
  obtain ⟨before, after, rfl, rfl⟩ := h
  have hspawned : (m.run before).spawned? (.launch p) = some ⟨.caller, .running p⟩ := rfl
  rw [run_append, run_cons]
  exact role?_run (role?_act_of_fresh hspawned) after

end Launches

namespace Obedient

variable {F : Facts} {P : TaskId → Pledge} {m : Machine} {actions : List Action}

/-- In any run of programs that obey their pledges, all tasks do as pledged. -/
theorem run (hm : Obedient F P m) (hregular : m.Regular)
    (hkept : Expects F P) (hcovers : Covers F.toUpstream (m.run actions))
    (hlaunch : ∀ t p, m.Launches actions t p → p.Obeys F (P t)) :
    Obedient F P (m.run actions) := by
  induction actions generalizing m with
  | nil => exact hm
  | cons a rest ih =>
    have hcovers' : Covers F.toUpstream (m.act a) := hcovers.of_suffix (log_suffix_run _ rest)
    have hact : Obedient F P (m.act a) := by
      refine hm.act hregular hkept hcovers' fun p ha => ?_
      exact hlaunch _ p (launches_cons.2 (.inl ⟨ha, rfl⟩))
    refine ih hact (hregular.act a) hcovers fun t p h => ?_
    exact hlaunch t p (launches_cons.2 (.inr h))

/-- A caller that succeeds returns what is pledged. -/
theorem returns (hm : Obedient F P m) {t : TaskId} {v : Json} (hrole : m.role? t = some .caller)
    (h : m.activity? t = some (.finished (.ok v))) : (P t).returns v :=
  hm.tasks hrole h v rfl

end Obedient

end EthRpc.Machine
