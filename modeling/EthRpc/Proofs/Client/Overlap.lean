-- SUMMARY: Two reads of one key cost one call, unless one slips between the table and the cache.
import Mathlib.Tactic.IntervalCases
import EthRpc.Proofs.Client.Courses
import EthRpc.Proofs.Machine.Caches
import EthRpc.Proofs.Machine.Readers
import EthRpc.Proofs.Stage.Normalization

/-!
# Overlapping reads

A run leaves the table of shared runs by its own last step. The value that it
returned is written into the cache by the caller that led it, which takes its next
step some time later. A read that overlaps with another one finds the value in
the cache or joins the run, and then both together cost one call. But in between
there is neither an entry nor a value, and a read that has looked into the cache
before the write and comes to the table after the end of the run asks again.
-/

namespace EthRpc

/-! ## Programs -/

theorem Program.normalizing_reads {spec : MethodSpec} {q : Request} {k : Normalized → Program}
    (hk : ∀ a, (k (.resolved spec q a)).Reads) : (normalizing spec q k).Reads := by
  rw [Normalized.normalizing_eq (a := .error .timeout)]
  split
  · exact .asks (.inl trivial) hk
  · exact hk _

namespace Client

open Machine (Action TaskId)

section Program

variable {methods : MethodTable} {retry : RetrySettings} {r : Request}

/-- Requests whose answers hold for ever are read through the cache. -/
theorem program_reads (hcache : (methods.spec r.method).cache = .permanent ∨
    (methods.spec r.method).cache = .block) : (program methods retry r).Reads := by
  have hshares {q : Request} (hq : q.method = r.method) :
      (Stage.inflight methods 0).handle q (runProgram methods retry) =
        .share 0 q.fingerprint (runProgram methods retry q) .done := by
    refine Stage.inflight_eq_share ?_ 0 _
    rw [hq]
    rcases hcache with h | h <;> simp [h]
  have hpipeline : program methods retry r = (Stage.blockCache methods 0).handle r fun q =>
    (Stage.inflight methods 0).handle q (runProgram methods retry) := rfl
  rw [hpipeline]
  rcases hcache with hpermanent | hblock
  · simp only [Stage.blockCache, hpermanent]
    exact Program.cached_reads (hshares rfl)
  · simp only [Stage.blockCache, hblock]
    refine Program.normalizing_reads fun a => ?_
    have hmethod := Normalized.method_of_normalizes
      (Normalized.normalizes_resolved (methods.spec r.method) r a)
    split
    · exact Program.cached_reads (hshares hmethod)
    · exact Program.cached_reads (hshares hmethod)
    · rw [hshares hmethod]
      exact .fetches (.shares fun _ => .returns)

theorem Work.Handles.reads {w : Work} (hr : w.Handles r)
    (hcache : (methods.spec r.method).cache = .permanent ∨
      (methods.spec r.method).cache = .block) : (w.program (stages methods retry)).Reads := by
  cases w with
  | dispatch q =>
    obtain rfl : r = q := hr
    exact program_reads hcache
  | call method params =>
    obtain ⟨n, rfl⟩ := hr
    exact .asks (.inr rfl) fun _ => program_reads hcache
  | query q => cases hr

end Program

/-! ## Reads -/

variable {methods : MethodTable} {s : Settings} {before actions looked looked' now : List Action}
  {t x y u : TaskId} {key : String} {v : Json} {found found' : Option Json}
  {k k' : Option Json → Program}

/-- In a run of a client, a task that is at work on a request whose answer holds for ever looks for
a key in the cache. -/
def LooksUp (methods : MethodTable) (s : Settings) (actions : List Action) (t : TaskId)
    (key : String) : Prop :=
  ∃ w r, Employs methods s actions t w ∧ w.Handles r ∧
    ((methods.spec r.method).cache = .permanent ∨ (methods.spec r.method).cache = .block) ∧
    ∃ looked k, looked ++ [.step t] <+: actions ∧
      ((start s).run looked).activity? t = some (.running (.ask (.lookup 0 key) k))

theorem LooksUp.exists_reader (h : LooksUp methods s actions t key) :
    ∃ looked found k, (start s).Reader t actions looked key found k := by
  obtain ⟨w, r, ht, hr, hcache, looked, k, hlooks, hlooking⟩ := h
  obtain ⟨found, hreader⟩ := Machine.exists_reader hlooks hlooking fun hnow hrunning =>
    ht.keeps (fun _ _ => .of_goes) (hr.reads hcache) hnow hrunning
  exact ⟨looked, found, k, hreader⟩

/-- Two tasks that come after some actions are the only ones that write into the cache from then
on. -/
structure Alone (s : Settings) (before actions : List Action) (x y : TaskId) : Prop where
  isPrefix : before <+: actions
  first : ((start s).run before).tasks.size ≤ x
  second : ((start s).run before).tasks.size ≤ y
  writes : ∀ {now t key v}, before <+: now → now ++ [.step t] <+: actions →
    ((start s).run now).Keeps t 0 key v → t = x ∨ t = y

/-- A task misses the value that another one has a run for: it looked for the key before the other
one had kept it, and it is about to go to the table when the run that the other one has entered is
over. -/
structure Misses (m : Machine) (key : String) (late early : TaskId)
    (looked entered came : List Action) (u : TaskId) : Prop where
  looks : looked ++ [.step late] <+: came
  enters : entered ++ [.step early] <+: came
  looking : ∃ k, (m.run looked).activity? late = some (.running (.ask (.lookup 0 key) k))
  unkept : ∀ w, ¬(m.run looked).Stored early 0 key w
  entering : ∃ k, m.Enters early entered key u k
  sharing : ∃ run k, (m.run came).activity? late = some (.running (.share 0 key run k))
  ended : ∃ old, (m.run came).activity? u = some old ∧ old.isOver

/-- One of two tasks misses the value of the other one. -/
def Missed (s : Settings) (actions : List Action) (key : String) (x y : TaskId) : Prop :=
  ∃ looked entered came run, came <+: actions ∧
    (Misses (start s) key y x looked entered came run ∨
      Misses (start s) key x y looked entered came run)

/-- A request is sent for a task by itself or by a run that it leads. -/
def SentFor (m : Machine) (t : TaskId) (p : TaskId × Request) : Prop :=
  p.1 = t ∨ m.leader? p.1 = some t

instance (m : Machine) (t : TaskId) : DecidablePred (SentFor m t) := fun p =>
  inferInstanceAs (Decidable (p.1 = t ∨ m.leader? p.1 = some t))

namespace Alone

variable (ha : Alone s before actions x y)

include ha

theorem symm : Alone s before actions y x :=
  ⟨ha.isPrefix, ha.second, ha.first, fun hnow hlater hkeeps => (ha.writes hnow hlater hkeeps).symm⟩

/-- The first task does anything only later. -/
theorem behind (hx : ∃ old, ((start s).run now).activity? x = some old) (hnow : now <+: actions) :
    before <+: now := by
  obtain ⟨old, hold⟩ := hx
  rcases List.prefix_or_prefix_of_prefix ha.isPrefix hnow with h | ⟨rest, rfl⟩
  · exact h
  · have hle := Machine.size_le_size_run ((start s).run now) rest
    rw [← Machine.run_append] at hle
    exact absurd (Machine.lt_size_of_activity? hold) (Nat.not_lt.2 (hle.trans ha.first))

variable (hx : (start s).Reader x actions looked key found k)
  (hy : (start s).Reader y actions looked' key found' k')

include hx hy

/-- What is in the cache under the key stays there. -/
theorem holds {b c : List Action} (hb : before <+: b) (hbc : b <+: c) (hc : c <+: actions)
    (h : ((start s).run b).Holds 0 key v) : ∃ w, ((start s).run c).Holds 0 key w := by
  refine h.run hbc fun d t key' w hd hdc hkeeps => ?_
  have hlater := hdc.trans hc
  have hnow := (List.prefix_append _ _).trans hlater
  rcases ha.writes (hb.trans hd) hlater hkeeps with rfl | rfl
  · exact (hx.of_keeps hnow hkeeps).2.1
  · exact (hy.of_keeps hnow hkeeps).2.1

/-- What the first task has kept can be found. -/
theorem holds_of_stored (hroom : 0 < s.cacheCapacity) (hnow : now <+: actions)
    (h : ((start s).run now).Stored x 0 key v) : ∃ w, ((start s).run now).Holds 0 key w := by
  obtain ⟨d, hd, hkeeps⟩ := Machine.Stored.exists_keeps h
  have hbefore := ha.behind ⟨_, hkeeps.choose_spec⟩
    ((List.prefix_append _ _).trans (hd.trans hnow))
  obtain ⟨cache, hcache, hcapacity⟩ := exists_cache s d
  rw [← hcapacity] at hroom
  have hholds := hkeeps.holds hcache hroom
  rw [← Machine.run_concat] at hholds
  exact ha.holds hx hy (hbefore.trans (List.prefix_append _ _)) hd hnow hholds

/-- If the first task finds nothing then the second one has kept nothing by then. -/
theorem not_stored (hroom : 0 < s.cacheCapacity) (hnone : found = none) (w : Json) :
    ¬((start s).run looked).Stored y 0 key w := by
  intro hstored
  have hnow := (List.prefix_append _ _).trans hx.looks
  obtain ⟨w', hholds⟩ := ha.symm.holds_of_stored hy hx hroom hnow hstored
  rw [hx.finds.holds_iff, hnone] at hholds
  cases hholds

/-- If the first task finds nothing then what the second one finds was kept by the first one. -/
theorem keeps_of_found {w : Json} (hnone : found = none) (hfound : found' = some w) :
    ∃ d, d ++ [.step x] <+: looked' ∧ ((start s).run d).Keeps x 0 key w := by
  have hlooked := (List.prefix_append _ _).trans hx.looks
  have hlooked' := (List.prefix_append _ _).trans hy.looks
  have hholds : ((start s).run looked').Holds 0 key w := hy.finds.holds_iff.2 hfound
  rcases Machine.holds_of_run (ha.symm.behind ⟨_, hy.looking⟩ hlooked') hholds with
    hfirst | ⟨d, t, hd, hlater, hkeeps⟩
  · -- It would have been there for the first one.
    have hbefore := ha.behind ⟨_, hx.looking⟩ hlooked
    obtain ⟨w', hstill⟩ := ha.holds hx hy (List.prefix_refl _) hbefore hlooked hfirst
    rw [hx.finds.holds_iff, hnone] at hstill
    cases hstill
  · rcases ha.writes hd (hlater.trans hlooked') hkeeps with rfl | rfl
    · exact ⟨d, hlater, hkeeps⟩
    · -- A task keeps nothing before its own lookup.
      have hnow := (List.prefix_append _ _).trans (hlater.trans hlooked')
      obtain ⟨hbehind, -⟩ := hy.of_keeps hnow hkeeps
      have hle := (hbehind.trans ((List.prefix_append _ _).trans hlater)).length_le
      simp at hle

end Alone

/-! ## The first read -/

/-- A run that was entered is over, or else it is the one that can be joined. -/
theorem over_or_shared {b c : List Action} {kx : Outcome → Program}
    (h : (start s).Enters x b key u kx) (hc : b ++ [.step x] <+: c) :
    (∃ old, ((start s).run c).activity? u = some old ∧ old.isOver) ∨
      ∃ e, ((start s).run c).sharedRun? 0 key = some e ∧ e.run = u :=
  h.over_or_shared hc

/-- A run that a reader leads was started when the reader went to the table. -/
theorem exists_enters_of_leader (hx : (start s).Reader x actions looked key found k)
    (hlead : ((start s).run actions).leader? u = some x) :
    ∃ b k, b ++ [.step x] <+: actions ∧ (start s).Enters x b key u k ∧
      ((start s).run b).sharedRun? 0 key = none ∧ ((start s).run b).tasks.size = u ∧
      found = none := by
  obtain ⟨i, key', hrole⟩ := Machine.leader?_eq_some_iff.1 hlead
  obtain ⟨b, run, k, hb, hsize, hleads⟩ := Machine.exists_leads_of_role hrole
  obtain ⟨-, hmissed, rfl, rfl, -⟩ :=
    hx.of_share ((List.prefix_append _ _).trans hb) hleads.activity
  exact ⟨b, k, hb, ⟨run, hleads.activity, .inr ⟨hleads.unshared, hsize⟩⟩, hleads.unshared, hsize,
    hmissed⟩

/-- A reader has found nothing, has started a run when it went to the table, and the run has
returned a value. -/
structure Fetched (s : Settings) (actions looked b : List Action) (x u : TaskId) (key : String)
    (v : Json) (k : Option Json → Program) (kx : Outcome → Program) : Prop where
  reader : (start s).Reader x actions looked key none k
  steps : b ++ [.step x] <+: actions
  enters : (start s).Enters x b key u kx
  unshared : ((start s).run b).sharedRun? 0 key = none
  size : ((start s).run b).tasks.size = u
  returned : ((start s).run actions).activity? u = some (.finished (.ok v))

theorem exists_fetched (hx : (start s).Reader x actions looked key found k)
    (hlead : ((start s).run actions).leader? u = some x)
    (hreturned : ((start s).run actions).activity? u = some (.finished (.ok v))) :
    ∃ b kx, Fetched s actions looked b x u key v k kx := by
  obtain ⟨b, kx, hb, hentered, hnone, hsize, rfl⟩ := exists_enters_of_leader hx hlead
  exact ⟨b, kx, hx, hb, hentered, hnone, hsize, hreturned⟩

theorem orderly_run (s : Settings) (actions : List Action) : ((start s).run actions).Orderly :=
  (Machine.orderly_start _ _ _).run actions

namespace Fetched

variable {b : List Action} {kx : Outcome → Program}
  (hf : Fetched s actions looked b x u key v k kx)

include hf

/-- The first read returns what it has fetched. -/
theorem answered : ((start s).run actions).Answered x (.ok v) :=
  hf.reader.answered_of_enters (orderly_run s actions) hf.steps hf.enters hf.returned

/-- It leads no other run. -/
theorem eq_of_leader {t : TaskId} (ht : ((start s).run actions).leader? t = some x) : t = u := by
  obtain ⟨c, kc, hc, hentered, -, hsize, -⟩ := exists_enters_of_leader hf.reader ht
  obtain rfl := hf.reader.eq_of_enters hf.steps hc hf.enters hentered
  exact hsize.symm.trans hf.size

/-- The run is in the table as long as it is not over. -/
theorem shared (hnow : now <+: actions) {old : Machine.Activity}
    (hold : ((start s).run now).activity? u = some old) (hopen : old.isOver = false) :
    ∃ e, ((start s).run now).sharedRun? 0 key = some e ∧ e.run = u := by
  rcases Machine.prefix_or_behind hf.steps hnow with ⟨rest, hrest⟩ | hlater
  · -- The run is not there before it is started.
    have hle := Machine.size_le_size_run ((start s).run now) rest
    rw [← Machine.run_append, hrest, hf.size] at hle
    exact absurd (Machine.lt_size_of_activity? hold) (Nat.not_lt.2 hle)
  · rcases over_or_shared hf.enters hlater with ⟨old', hold', hover⟩ | hshared
    · rw [hold] at hold'
      cases hold'
      rw [hopen] at hover
      cases hover
    · exact hshared

end Fetched

/-! ## The second read -/

/-- A read returns a value without a run of its own. -/
structure Spared (s : Settings) (actions : List Action) (y : TaskId) (v : Json) : Prop where
  answered : ((start s).run actions).Answered y (.ok v)
  leads : ∀ t, ((start s).run actions).leader? t ≠ some y

namespace Fetched

variable {b : List Action} {kx : Outcome → Program}
  (hf : Fetched s actions looked b x u key v k kx) (ha : Alone s before actions x y)

include hf ha

/-- If the second read finds the key, the first one has kept the value. -/
theorem spared_of_found {w : Json} (hy : (start s).Reader y actions looked' key (some w) k') :
    Spared s actions y v := by
  obtain ⟨d, hd, hkeeps⟩ := ha.keeps_of_found hf.reader hy rfl rfl
  have hnow : d <+: actions := (List.prefix_append _ _).trans
    (hd.trans ((List.prefix_append _ _).trans hy.looks))
  have hkept := hf.reader.eq_of_heard hf.steps hf.enters hnow (hf.reader.of_keeps hnow hkeeps).2.2
  have hreturned := hf.returned
  obtain ⟨rest, rfl⟩ := hnow
  rw [Machine.run_append, Machine.activity?_run_of_isOver hkept rfl rest] at hreturned
  cases hreturned
  refine ⟨hy.answered_of_found rfl, fun t ht => ?_⟩
  obtain ⟨-, -, -, -, -, -, hmissed⟩ := exists_enters_of_leader hy ht
  cases hmissed

variable (hroom : 0 < s.cacheCapacity) (hy : (start s).Reader y actions looked' key none k')

include hroom hy

/-- A second read that comes to the table when the run is over has missed the value. -/
theorem misses_of_over {c : List Action} {run : Program} {kc : Outcome → Program}
    (hc : c <+: actions) (hlater : b ++ [.step x] <+: c)
    (hsharing : ((start s).run c).activity? y = some (.running (.share 0 key run kc)))
    (hover : ∃ old, ((start s).run c).activity? u = some old ∧ old.isOver) :
    Misses (start s) key y x looked' b c u where
  looks := (hy.of_share hc hsharing).1
  enters := hlater
  looking := ⟨_, hy.looking⟩
  unkept := ha.symm.not_stored hy hf.reader hroom rfl
  entering := ⟨_, hf.enters⟩
  sharing := ⟨_, _, hsharing⟩
  ended := hover

/-- A second read that comes to the table joins the run, or one of both has missed the other. -/
theorem second_of_enters (hne : x ≠ y) {c : List Action} {u' : TaskId} {kc : Outcome → Program}
    (hc : c ++ [.step y] <+: actions) (hentered : (start s).Enters y c key u' kc) :
    Spared s actions y v ∨ Missed s actions key x y := by
  have hnow : c <+: actions := (List.prefix_append _ _).trans hc
  have ⟨run, hsharing, _⟩ := hentered
  rcases Machine.step_cases hf.steps hc with ⟨-, rfl⟩ | hlater | hlater
  · exact absurd rfl hne
  · rcases over_or_shared hf.enters hlater with hover | ⟨e, he, hrun⟩
    · exact .inr ⟨_, _, c, _, hnow, .inl (hf.misses_of_over ha hroom hy hnow hlater hsharing hover)⟩
    · have hjoins : (start s).Enters y c key u kc := ⟨run, hsharing, .inl ⟨e, he, hrun⟩⟩
      refine .inl ⟨hy.answered_of_enters (orderly_run s actions) hc hjoins hf.returned, ?_⟩
      intro t ht
      obtain ⟨c', kc', hc', hentered', hnone, -⟩ := exists_enters_of_leader hy ht
      obtain rfl := hy.eq_of_enters hc hc' hjoins hentered'
      rw [he] at hnone
      cases hnone
  · -- The first read could not join what the second one had entered before.
    rcases over_or_shared hentered hlater with hover | ⟨e, he, -⟩
    · have hb : b <+: actions := (List.prefix_append _ _).trans hf.steps
      have ⟨run', hsharing', _⟩ := hf.enters
      refine .inr ⟨looked, c, b, u', hb, .inr ⟨(hf.reader.of_share hb hsharing').1, hlater, ?_, ?_,
        ⟨_, hentered⟩, ⟨_, _, hsharing'⟩, hover⟩⟩
      · exact ⟨_, hf.reader.looking⟩
      · exact ha.not_stored hf.reader hy hroom rfl
    · have hnone := hf.unshared
      rw [he] at hnone
      cases hnone

/-- A second read that has not been to the table yet will miss the value there, if it goes on. -/
theorem second_of_not_entered
    (hnot : ∀ c u' kc, c ++ [.step y] <+: actions → ¬(start s).Enters y c key u' kc) :
    Spared s actions y v ∨ Missed s actions key x y := by
  rcases hy.of_not_entered rfl hnot with ⟨run, kc, hsharing⟩ | hgone
  · have hnow := List.prefix_refl actions
    exact .inr ⟨_, _, _, _, hnow, .inl
      (hf.misses_of_over ha hroom hy hnow hf.steps hsharing ⟨_, hf.returned, rfl⟩)⟩
  · refine .inl ⟨?_, fun t ht => ?_⟩
    · rcases hgone with hcrashed | hcancelled
      · exact .inl hcrashed
      · exact .inr (.inl hcancelled)
    · obtain ⟨c, kc, hc, hentered, -⟩ := exists_enters_of_leader hy ht
      exact hnot c t kc hc hentered

end Fetched

/-! ## One call -/

/-- If readers lead no other run than one then all that is sent for them is sent by this run. -/
theorem filter_sentFor (hx : (start s).Reader x actions looked key found k)
    (hy : (start s).Reader y actions looked' key found' k')
    (hlead : ((start s).run actions).leader? u = some x)
    (hfirst : ∀ t, ((start s).run actions).leader? t = some x → t = u)
    (hsecond : ∀ t, ((start s).run actions).leader? t ≠ some y) :
    (((start s).run actions).requests.filter fun p =>
      SentFor ((start s).run actions) x p ∨ SentFor ((start s).run actions) y p) =
    ((start s).run actions).requests.filter (·.1 = u) := by
  refine List.filter_congr fun p hp => decide_eq_decide.2 ⟨?_, ?_⟩
  · -- Readers themselves send nothing.
    obtain ⟨b, next, hb, hsending⟩ := Machine.exists_sends hp
    have hnow := (List.prefix_append _ _).trans hb
    rintro ((hself | hleads) | (hself | hleads))
    · exact (hx.reads hnow (hself ▸ hsending)).not_send.elim
    · exact hfirst _ hleads
    · exact (hy.reads hnow (hself ▸ hsending)).not_send.elim
    · exact absurd hleads (hsecond _)
  · intro hu
    refine .inl (.inr ?_)
    rw [hu]
    exact hlead

/-- Two callers look for the same key of an answer that holds for ever, and nobody else writes into
the cache from before they came. The first one leads a run that has sent one request and returned a
value. Then this request is all that is sent for both, and both return the value as soon as they
may, unless one of them has looked into the cache before the other one wrote and comes to the table
after the run of the other one has left it. The read is in the table until its run is over, and in
the cache from the moment that the leading caller keeps the value. -/
theorem overlapping_reads (hx : LooksUp methods s actions x key)
    (hy : LooksUp methods s actions y key) (hne : x ≠ y) (ha : Alone s before actions x y)
    (hroom : 0 < s.cacheCapacity) (hlead : ((start s).run actions).leader? u = some x)
    (hreturned : ((start s).run actions).activity? u = some (.finished (.ok v)))
    (honce : (((start s).run actions).requests.filter (·.1 = u)).length = 1) :
    ((((start s).run actions).requests.filter fun p =>
          SentFor ((start s).run actions) x p ∨ SentFor ((start s).run actions) y p).length = 1 ∧
        ((start s).run actions).Answered x (.ok v) ∧
        ((start s).run actions).Answered y (.ok v) ∨
      ∃ looked entered came run, came <+: actions ∧
        (Misses (start s) key y x looked entered came run ∨
          Misses (start s) key x y looked entered came run)) ∧
    ∀ now, now <+: actions →
      (∀ old, ((start s).run now).activity? u = some old → old.isOver = false →
        ∃ e, ((start s).run now).sharedRun? 0 key = some e ∧ e.run = u) ∧
      ∀ w, ((start s).run now).Stored x 0 key w → ∃ w', ((start s).run now).Holds 0 key w' := by
  obtain ⟨looked, found, k, hx⟩ := hx.exists_reader
  obtain ⟨looked', found', k', hy⟩ := hy.exists_reader
  obtain ⟨b, kx, hf⟩ := exists_fetched hx hlead hreturned
  have hsecond : Spared s actions y v ∨ Missed s actions key x y := by
    cases found' with
    | some w => exact .inl (hf.spared_of_found ha hy)
    | none =>
      by_cases hcame : ∃ c u' kc, c ++ [.step y] <+: actions ∧ (start s).Enters y c key u' kc
      · obtain ⟨c, u', kc, hc, hentered⟩ := hcame
        exact hf.second_of_enters ha hroom hy hne hc hentered
      · exact hf.second_of_not_entered ha hroom hy fun c u' kc hc hentered =>
          hcame ⟨c, u', kc, hc, hentered⟩
  refine ⟨hsecond.imp_left fun hspared => ?_, fun now hnow => ⟨?_, ?_⟩⟩
  · refine ⟨?_, hf.answered, hspared.answered⟩
    rw [filter_sentFor hx hy hlead (fun _ => hf.eq_of_leader) hspared.leads]
    exact honce
  · exact fun old hold hopen => hf.shared hnow hold hopen
  · exact fun w hstored => ha.holds_of_stored hx hy hroom hnow hstored

/-! ### The identity of the chain -/

/-- A table that knows one method, whose answer holds for ever. -/
def chainIds : MethodTable := [("eth_chainId", { cache := .permanent })]

def chainId : Request := ⟨.number 7, "eth_chainId", []⟩

def readChainId : Program := (Work.dispatch chainId).program (stages chainIds .default)

/-- The second caller comes while the run of the first one waits for the endpoint, and joins it. -/
def joiningReads : List Action :=
  [.launch readChainId, .step 0, .step 0, .step 1, .launch readChainId, .step 2, .step 2,
    .answer 1 (.ok (.string "0x1")), .step 1, .step 0, .step 2]

/-- The second caller comes when the run of the first one is over, and the first one has not taken
a step since. -/
def handover : List Action :=
  [.launch readChainId, .step 0, .step 0, .step 1, .answer 1 (.ok (.string "0x1")), .step 1,
    .launch readChainId, .step 2, .step 2, .step 3, .answer 3 (.ok (.string "0x1")), .step 3,
    .step 0, .step 2]

/-- Of all steps of a run, a few are looked at. -/
theorem alone_of_take {reads : List Action}
    (hwrites : ∀ n < reads.length, ∀ t key v, reads[n]? = some (.step t) →
      ((start .default).run (reads.take n)).Keeps t 0 key v → t = x ∨ t = y) :
    Alone .default [] reads x y where
  isPrefix := List.nil_prefix
  first := Nat.zero_le _
  second := Nat.zero_le _
  writes := by
    intro now t key v _ ⟨rest, hrest⟩ hkeeps
    have hnow : reads.take now.length = now := by simp [← hrest]
    refine hwrites now.length (by simp [← hrest]) t key v (by simp [← hrest]) ?_
    rwa [hnow]

theorem alone_of_joiningReads : Alone .default [] joiningReads 0 2 := by
  refine alone_of_take fun n hn t key v hstep ⟨k, hk⟩ => ?_
  simp only [joiningReads, List.length_cons, List.length_nil] at hn
  interval_cases n <;> cases hstep
  case «1» | «2» | «9» => exact .inl rfl
  case «5» | «6» | «10» => exact .inr rfl
  case «3» | «8» => cases hk

theorem looksUp_of_readChainId {actions looked rest : List Action} {k : Option Json → Program}
    (ht : Employs chainIds .default actions t (.dispatch chainId))
    (hlooks : looked ++ [.step t] ++ rest = actions)
    (hlooking : ((start .default).run looked).activity? t =
      some (.running (.ask (.lookup 0 "eth_chainId:[]") k))) :
    LooksUp chainIds .default actions t "eth_chainId:[]" :=
  ⟨_, chainId, ht, rfl, .inl rfl, looked, k, ⟨rest, hlooks⟩, hlooking⟩

/-- One call for both. -/
theorem overlapping_reads_of_joined :
    ((((start .default).run joiningReads).requests.filter fun p =>
          SentFor ((start .default).run joiningReads) 0 p ∨
            SentFor ((start .default).run joiningReads) 2 p).length = 1 ∧
        ((start .default).run joiningReads).Answered 0 (.ok (.string "0x1")) ∧
        ((start .default).run joiningReads).Answered 2 (.ok (.string "0x1")) ∨
      Missed .default joiningReads "eth_chainId:[]" 0 2) ∧
    ∃ w, ((start .default).run joiningReads).Holds 0 "eth_chainId:[]" w := by
  have hfirst : LooksUp chainIds .default joiningReads 0 "eth_chainId:[]" :=
    looksUp_of_readChainId ⟨[], _, rfl, rfl⟩ (show joiningReads.take 1 ++ _ ++ _ = _ from rfl) rfl
  have hsecond : LooksUp chainIds .default joiningReads 2 "eth_chainId:[]" :=
    looksUp_of_readChainId ⟨joiningReads.take 4, _, rfl, rfl⟩
      (show joiningReads.take 5 ++ _ ++ _ = _ from rfl) rfl
  obtain ⟨hcalls, hmoments⟩ := overlapping_reads hfirst hsecond (by decide) alone_of_joiningReads
    (by decide) (u := 1) (v := .string "0x1") rfl rfl rfl
  refine ⟨hcalls, (hmoments _ (List.prefix_refl _)).2 (.string "0x1") ⟨0, ?_⟩⟩
  exact List.mem_of_getElem? (i := 1) rfl

/-- The first caller has not returned when the second one comes, but its run is over and it is
about to keep the value: nothing is in the table and nothing in the cache, so both call. -/
theorem two_calls_of_handover :
    let m := (start .default).run handover
    let gap := (start .default).run (handover.take 6)
    LooksUp chainIds .default handover 0 "eth_chainId:[]" ∧
      LooksUp chainIds .default handover 2 "eth_chainId:[]" ∧
      Alone .default [] handover 0 2 ∧
      m.leader? 1 = some 0 ∧ m.activity? 1 = some (.finished (.ok (.string "0x1"))) ∧
      Program.storable (chainIds.spec "eth_chainId") (.string "0x1") ∧
      m.requests.filter (·.1 = 1) = [(1, chainId)] ∧
      (gap.Keeps 0 0 "eth_chainId:[]" (.string "0x1") ∧
        gap.sharedRun? 0 "eth_chainId:[]" = none ∧ ∀ w, ¬gap.Holds 0 "eth_chainId:[]" w) ∧
      m.requests.filter (fun p => SentFor m 0 p ∨ SentFor m 2 p) =
        [(1, chainId), (3, chainId)] := by
  refine ⟨?first, ?second, ?alone, rfl, rfl, rfl, rfl, ⟨⟨_, rfl⟩, rfl, nofun⟩, rfl⟩
  case first =>
    exact looksUp_of_readChainId ⟨[], _, rfl, rfl⟩ (show handover.take 1 ++ _ ++ _ = _ from rfl) rfl
  case second =>
    exact looksUp_of_readChainId ⟨handover.take 6, _, rfl, rfl⟩
      (show handover.take 7 ++ _ ++ _ = _ from rfl) rfl
  case alone =>
    refine alone_of_take fun n hn t key v hstep ⟨k, hk⟩ => ?_
    simp only [handover, List.length_cons, List.length_nil] at hn
    interval_cases n <;> cases hstep
    case «1» | «2» | «12» => exact .inl rfl
    case «7» | «8» | «13» => exact .inr rfl
    case «3» | «5» | «9» | «11» => cases hk

end Client

end EthRpc
