-- SUMMARY: A request to a method that nothing is known of goes to the endpoint once, as it is, and its answer comes back.
import EthRpc.Proofs.Client.Courses

/-!
# Passing requests

A write or a subscription must not be answered from a cache, shared with an equal
request or asked again. The stages leave a request alone whose method has no
cache, no block parameter and no second try, and so it comes to the endpoint once
for each caller. All that is done beyond that is that the tracker may look for the
head that an answer names.
-/

namespace EthRpc

/-! ## Keeping aloof -/

namespace Machine

/-- The task that an action is about. -/
def Action.task? : Action → Option TaskId
  | .step t | .answer t _ | .crash t | .fire t | .abort t => some t
  | _ => none

section Aloof

variable {m : Machine} {a : Action} {t : TaskId}
  (hrole : ∀ i key leader, m.role? t ≠ some (.run i key leader))

include hrole

theorem closedTables_of_not_run : m.closedTables t = m.tables := by
  unfold closedTables
  split
  next i key leader h => exact absurd h (hrole i key leader)
  next => rfl

/-- Whatever happens to a task that is no run and that neither uses a cache nor shares a run, the
caches and the tables stay as they are, and no task is created. -/
theorem act_of_aloof (haloof : ∀ p, m.activity? t = some (.running p) → p.Aloof)
    (ha : a.task? = some t) :
    (m.act a).caches = m.caches ∧ (m.act a).tables = m.tables ∧
      (m.act a).tasks.size = m.tasks.size := by
  have heffect := effect_act m a
  have hclosed := closedTables_of_not_run hrole
  have hspawned : m.spawned? a = none := by
    cases hs : m.spawned? a with
    | none => rfl
    | some task =>
      cases spawns_of_spawned? hs with
      | caller | loop => cases ha
      | run hold _ =>
        cases ha
        exact (haloof _ hold).1.elim
  refine ⟨heffect.caches.trans ?_, heffect.tables.trans ?_, by simp [heffect.size, hspawned]⟩
  · unfold cachesAfter
    split
    next u =>
      cases ha
      split
      next i key k hold => exact ((haloof _ hold).1 i key .lookup).elim
      next i key v k hold => exact ((haloof _ hold).1 i key .keep).elim
      next => rfl
    next => rfl
  · unfold tablesAfter
    split
    next u =>
      cases ha
      split
      next => exact hclosed
      next hold => exact (haloof _ hold).1.elim
      next => rfl
    next u =>
      cases ha
      split
      · split
        · exact hclosed
        · rfl
      · rfl
    next => rfl

end Aloof

end Machine

/-! ## The program of a passing request -/

namespace Stage

variable {methods : MethodTable} {q : Request} (next : Request → Program)

theorem blockCache_of_never (cache : Nat) (h : (methods.spec q.method).cache = .never) :
    (blockCache methods cache).handle q next = next q := by
  simp only [blockCache, h]

theorem inflight_of_never (table : Nat) (h : (methods.spec q.method).cache = .never) :
    (inflight methods table).handle q next = next q := by
  simp only [inflight, h]

theorem blockRef_of_none (h : (methods.spec q.method).blockParam = none) :
    (blockRef methods).handle q next = next q := by
  simp only [blockRef, h]

theorem retryOnEmpty_of_not (settings : RetrySettings)
    (h : (methods.spec q.method).retryOnEmpty = false) :
    (retryOnEmpty methods settings).handle q next = next q := by
  simp [retryOnEmpty, h]

end Stage

namespace Client

open Machine (Action Event TaskId Told)

/-- What is done with the answer to a passing request. -/
def passOn : Outcome → Program
  | .ok v =>
    match v.blockNumber? with
    | none => .done (.ok v)
    | some n => .ask (.query (.ifBehind n)) fun _ => .done (.ok v)
  | .error e => .done (.error e)

theorem passOn_cases (o : Outcome) :
    passOn o = .done o ∨ ∃ n, passOn o = .ask (.query (.ifBehind n)) fun _ => .done o := by
  unfold passOn
  split
  · split
    · exact .inl rfl
    · exact .inr ⟨_, rfl⟩
  · exact .inl rfl

/-- A request to a method without a cache is like a run of its own. -/
theorem program_of_never {methods : MethodTable} (retry : RetrySettings) {r : Request}
    (h : (methods.spec r.method).cache = .never) :
    program methods retry r = runProgram methods retry r :=
  (Stage.blockCache_of_never _ 0 h).trans (Stage.inflight_of_never _ 0 h)

theorem program_of_passes {methods : MethodTable} (retry : RetrySettings) {r : Request}
    (h : (methods.spec r.method).Passes) : program methods retry r = .ask (.send r) passOn := by
  obtain ⟨hcache, hparam, hretry⟩ := h
  have hinspector : Stage.inspector.handle r .send = .ask (.send r) passOn := rfl
  rw [← hinspector]
  exact (program_of_never retry hcache).trans <|
    (Stage.blockRef_of_none _ hparam).trans (Stage.retryOnEmpty_of_not _ retry hretry)

/-! ## Its record -/

/-- What a look for the head leaves: nothing if it is known, or else a poll. -/
def Inspection (t : TaskId) (es : List Event) : Prop :=
  es = [] ∨ ∃ poll x,
    es = [.sent t true poll, .answered t x, .polled t (Tracker.polledHead x)]

/-- The record of a task whose request passes: it is sent, it is answered, there may be a look for
the head, and the answer is returned. -/
def passage (t : TaskId) (r : Request) (o : Outcome) (inspection : List Event) : List Event :=
  .sent t false r :: .answered t o :: inspection ++ [.finished t o]

section Record

variable {m : Machine} {t : TaskId} {now now' : List Action} {ds : List Told} {p' : Program}
  {under : List Event} {r : Request}

theorem record_of_passOn {o : Outcome} (hc : m.Course t now (passOn o) ds now' p')
    (hu : Machine.Underway t p' under) :
    ∃ inspection, Inspection t inspection ∧
      ds.flatMap (·.events t) ++ under <+: inspection ++ [.finished t o] := by
  have hdone : ∀ {now ds}, m.Course t now (.done o) ds now' p' →
      ds.flatMap (·.events t) ++ under <+: [.finished t o] := by
    intro now ds hc
    obtain ⟨rfl, rfl⟩ := hc.of_done
    cases hu with
    | quiet => exact List.nil_prefix
    | finished => exact List.prefix_refl _
  rcases passOn_cases o with hpass | ⟨n, hpass⟩
  · rw [hpass] at hc
    exact ⟨[], .inl rfl, hdone hc⟩
  rw [hpass] at hc
  cases hc with
  | refl =>
    -- What the look for the head has not left yet may be anything.
    cases hu with
    | quiet => exact ⟨[], .inl rfl, List.nil_prefix⟩
    | @polling _ _ poll =>
      exact ⟨_, .inr ⟨poll, .ok .null, rfl⟩, List.prefix_append [_] _⟩
    | @polled _ _ poll x => exact ⟨_, .inr ⟨poll, x, rfl⟩, List.prefix_append [_, _] _⟩
  | step _ hd hrest =>
    rw [List.flatMap_cons, List.append_assoc]
    cases hd with
    | reply | learn => exact ⟨[], .inl rfl, hdone hrest⟩
    | report =>
      exact ⟨_, .inr ⟨_, _, rfl⟩, (List.prefix_append_right_inj _).2 (hdone hrest)⟩

theorem record_of_passing (hc : m.Course t now (.ask (.send r) passOn) ds now' p')
    (hu : Machine.Underway t p' under) :
    ∃ o inspection, Inspection t inspection ∧
      ds.flatMap (·.events t) ++ under <+: passage t r o inspection := by
  cases hc with
  | refl =>
    cases hu with
    | quiet => exact ⟨.ok .null, [], .inl rfl, List.nil_prefix⟩
    | calling => exact ⟨.ok .null, [], .inl rfl, List.prefix_append [_] _⟩
  | step _ hd hrest =>
    rw [List.flatMap_cons, List.append_assoc]
    cases hd with
    | reply _ hr => cases hr
    | answer =>
      obtain ⟨inspection, hinspection, hbegins⟩ := record_of_passOn hrest hu
      exact ⟨_, inspection, hinspection, (List.prefix_append_right_inj [_, _]).2 hbegins⟩

end Record

/-! ## Passing work -/

/-- All that some work comes down to are requests that pass. -/
def Work.Passes (methods : MethodTable) (w : Work) : Prop :=
  (∃ r, w.Handles r) ∧ ∀ r, w.Handles r → (methods.spec r.method).Passes

section Work

variable {methods : MethodTable} {retry : RetrySettings} {w : Work} (hw : w.Passes methods)

include hw

theorem Work.Passes.aloof : (w.program (stages methods retry)).Aloof := by
  have hrequest : ∀ r, w.Handles r → (Client.program methods retry r).Aloof := by
    intro r hr
    rw [program_of_passes retry (hw.2 r hr)]
    refine ⟨nofun, fun o => ?_⟩
    rcases passOn_cases o with h | ⟨n, h⟩
    · rw [h]
      trivial
    · rw [h]
      exact ⟨nofun, fun _ => trivial⟩
  cases w with
  | dispatch q => exact hrequest q rfl
  | call method params => exact ⟨nofun, fun n => hrequest _ ⟨n, rfl⟩⟩
  | query q =>
    obtain ⟨⟨r, hr⟩, -⟩ := hw
    cases hr

/-- The record of passing work is that of one of its requests, as far as it has come. -/
theorem Work.Passes.record {m : Machine} {t : TaskId} {now now' : List Action} {ds : List Told}
    {p' : Program} {under : List Event}
    (hc : m.Course t now (w.program (stages methods retry)) ds now' p')
    (hu : Machine.Underway t p' under) :
    ∃ r o inspection, w.Handles r ∧ Inspection t inspection ∧
      ds.flatMap (·.events t) ++ under <+: passage t r o inspection := by
  have hrequest : ∀ {r now ds}, w.Handles r →
      m.Course t now (Client.program methods retry r) ds now' p' →
      ∃ r o inspection, w.Handles r ∧ Inspection t inspection ∧
        ds.flatMap (·.events t) ++ under <+: passage t r o inspection := by
    intro r now ds hr hc
    rw [program_of_passes retry (hw.2 r hr)] at hc
    obtain ⟨o, inspection, hinspection, hbegins⟩ := record_of_passing hc hu
    exact ⟨r, o, inspection, hr, hinspection, hbegins⟩
  cases w with
  | dispatch q => exact hrequest rfl hc
  | query q =>
    obtain ⟨⟨r, hr⟩, -⟩ := hw
    cases hr
  | call method params =>
    cases hc with
    | refl =>
      cases hu with
      | quiet => exact ⟨_, .ok .null, [], ⟨0, rfl⟩, .inl rfl, List.nil_prefix⟩
    | step _ hd hrest =>
      rw [List.flatMap_cons, List.append_assoc]
      cases hd with
      | reply => exact hrequest ⟨_, rfl⟩ hrest

end Work

/-! ## Once for each caller -/

section Once

variable {methods : MethodTable} {s : Settings} {actions now : List Action} {t : TaskId} {w : Work}

/-- A caller at passing work has come some way of its record. -/
theorem Employs.record (ht : Employs methods s actions t w) (hw : w.Passes methods) :
    ∃ r o inspection, w.Handles r ∧ Inspection t inspection ∧
      ((start s).run actions).trace t <+: passage t r o inspection ∧
      ∀ o', ((start s).run actions).activity? t = some (.finished o') →
        .finished t o' ∈ ((start s).run actions).trace t := by
  obtain ⟨b, hb, hborn⟩ := ht.born
  obtain ⟨ds, now, p, old, under, hcame⟩ := exists_came hborn hb
  obtain ⟨r, o, inspection, hr, hinspection, hbegins⟩ :=
    hw.record hcame.course hcame.stands.underway
  rw [hcame.trace]
  refine ⟨r, o, inspection, hr, hinspection, hbegins, fun o' hfinished => ?_⟩
  obtain ⟨-, rfl⟩ := hcame.of_finished hfinished
  exact List.mem_append_right _ (List.mem_singleton_self _)

/-- Wherever a caller at passing work stands, it keeps aloof. -/
theorem Employs.aloof (ht : Employs methods s actions t w) (hw : w.Passes methods)
    (hnow : now <+: actions) :
    (∀ i key leader, ((start s).run now).role? t ≠ some (.run i key leader)) ∧
      ∀ p, ((start s).run now).activity? t = some (.running p) → p.Aloof := by
  refine ⟨fun i key leader hrole => ?_, fun p hp => ?_⟩
  · rw [(ht.of_isPrefix hnow (Machine.lt_size_of_role? hrole)).role?] at hrole
    cases hrole
  · exact ht.keeps (fun _ _ => .of_goes) hw.aloof hnow hp

end Once

/-! ### Counting requests -/

/-- A passage that has come to its end is complete. -/
theorem eq_of_finished_mem {t : TaskId} {r : Request} {o o' : Outcome} {es inspection : List Event}
    (hi : Inspection t inspection) (hbegins : es <+: passage t r o inspection)
    (hmem : .finished t o' ∈ es) : o' = o ∧ es = passage t r o inspection := by
  have hbefore : .finished t o' ∉ Event.sent t false r :: .answered t o :: inspection := by
    rcases hi with rfl | ⟨poll, x, rfl⟩ <;> simp
  rcases List.prefix_concat_iff.1 hbegins with rfl | hbegins
  · rcases List.mem_append.1 hmem with hmem | hmem
    · exact absurd hmem hbefore
    · cases List.mem_singleton.1 hmem
      exact ⟨rfl, rfl⟩
  · exact absurd (hbegins.subset hmem) hbefore

theorem requests_of_passage {t : TaskId} {r : Request} {o : Outcome} {inspection : List Event}
    (hi : Inspection t inspection) :
    (passage t r o inspection).filterMap Event.request? = [(t, r)] := by
  rcases hi with rfl | ⟨poll, x, rfl⟩ <;> rfl

/-- If each of some things is the image of one in a list then there are as many of these. -/
theorem length_filter_mem_of_nodup {α β : Type} [DecidableEq β] (f : α → β) (xs : List α)
    {ts : List β} (hnodup : ts.Nodup) (hone : ∀ t ∈ ts, (xs.filter (f · = t)).length = 1) :
    (xs.filter (f · ∈ ts)).length = ts.length := by
  induction ts with
  | nil => simp
  | cons t ts ih =>
    obtain ⟨hnew, hnodup⟩ := List.nodup_cons.1 hnodup
    obtain ⟨ht, hts⟩ := List.forall_mem_cons.1 hone
    have hfirst : (xs.filter (f · ∈ t :: ts)).filter (f · = t) = xs.filter (f · = t) := by
      rw [List.filter_filter]
      exact List.filter_congr fun x _ => by by_cases hx : f x = t <;> simp [hx]
    have hrest : (xs.filter (f · ∈ t :: ts)).filter (fun x => !decide (f x = t)) =
        xs.filter (f · ∈ ts) := by
      rw [List.filter_filter]
      exact List.filter_congr fun x _ => by by_cases hx : f x = t <;> simp [hx, hnew]
    rw [List.length_eq_length_filter_add fun x => decide (f x = t), hfirst, hrest, ht,
      ih hnodup hts, List.length_cons, Nat.add_comm]

/-! ### All that a passing request does -/

/-- The request of a task goes to the endpoint once and as it is, as far as the task has come, and
when it comes to its end it returns what the endpoint has answered. -/
structure PassesOnce (m : Machine) (t : TaskId) (r : Request) (o : Outcome)
    (inspection : List Event) : Prop where
  inspects : Inspection t inspection
  record : m.trace t <+: passage t r o inspection
  requests : m.requests.filter (·.1 = t) <+: [(t, r)]
  finished : ∀ o', m.activity? t = some (.finished o') →
    o' = o ∧ m.trace t = passage t r o inspection ∧ m.requests.filter (·.1 = t) = [(t, r)]

theorem Employs.passesOnce {methods : MethodTable} {s : Settings} {actions : List Action}
    {t : TaskId} {w : Work} (ht : Employs methods s actions t w) (hw : w.Passes methods) :
    ∃ r o inspection, w.Handles r ∧ PassesOnce ((start s).run actions) t r o inspection := by
  obtain ⟨r, o, inspection, hr, hi, hbegins, hfinished⟩ := ht.record hw
  refine ⟨r, o, inspection, hr, hi, hbegins, ?_, fun o' ho' => ?_⟩
  · rw [Machine.requests_of_task, ← requests_of_passage (o := o) hi]
    exact hbegins.filterMap _
  · obtain ⟨rfl, htrace⟩ := eq_of_finished_mem hi hbegins (hfinished o' ho')
    refine ⟨rfl, htrace, ?_⟩
    rw [Machine.requests_of_task, htrace, requests_of_passage hi]

/-- A method that no table lists passes, and so do the known ones that have no cache, which are
writes, subscriptions and what depends on the node. Whoever comes with a request that passes sends
it once, as it is, and returns the answer, and there are as many such requests as callers. No step
of such a caller touches the caches and the tables, or starts a run. -/
theorem passes_once :
    ((∀ {methods : MethodTable} {method : String},
        Dict.get? method methods = none → (methods.spec method).Passes) ∧
      (∀ {method : String}, (MethodTable.builtin.spec method).cache = .never →
        (MethodTable.builtin.spec method).Passes) ∧
      ∀ method ∈ MethodTable.uncachedMethods, (MethodTable.builtin.spec method).Passes) ∧
    ∀ {methods : MethodTable} {s : Settings} {actions : List Action},
      let m := (start s).run actions
      (∀ {t w}, Employs methods s actions t w → w.Passes methods →
        ∃ r o inspection, w.Handles r ∧ PassesOnce m t r o inspection) ∧
      (∀ {ts : List TaskId}, ts.Nodup →
        (∀ t ∈ ts, ∃ w o, Employs methods s actions t w ∧ w.Passes methods ∧
          m.activity? t = some (.finished o)) →
        (m.requests.filter (·.1 ∈ ts)).length = ts.length) ∧
      ∀ {t w now a}, Employs methods s actions t w → w.Passes methods → now ++ [a] <+: actions →
        a.task? = some t →
        ((start s).run (now ++ [a])).caches = ((start s).run now).caches ∧
          ((start s).run (now ++ [a])).tables = ((start s).run now).tables ∧
          ((start s).run (now ++ [a])).tasks.size = ((start s).run now).tasks.size := by
  refine ⟨⟨MethodTable.passes_of_unlisted, MethodTable.passes_of_never_builtin, ?listed⟩, ?_⟩
  case listed =>
    intro method hmem
    exact MethodTable.passes_of_never_builtin (MethodTable.never_of_mem_uncachedMethods hmem)
  intro methods s actions m
  refine ⟨fun ht hw => ht.passesOnce hw, ?counted, ?untouched⟩
  case counted =>
    intro ts hnodup hts
    refine length_filter_mem_of_nodup _ _ hnodup fun t ht => ?_
    obtain ⟨w, o, hemploys, hw, hfinished⟩ := hts t ht
    obtain ⟨r, o', inspection, -, hpasses⟩ := hemploys.passesOnce hw
    rw [(hpasses.finished o hfinished).2.2]
    rfl
  case untouched =>
    intro t w now a ht hw hnow ha
    obtain ⟨hrole, haloof⟩ := ht.aloof hw ((List.prefix_append _ _).trans hnow)
    rw [Machine.run_concat]
    exact Machine.act_of_aloof hrole haloof ha

/-- A transaction that two callers submit. -/
def submission : Request := ⟨.number 7, "eth_sendRawTransaction", [.string "0x02"]⟩

/-- Both callers come before any of them is answered; one of them is told that it was too late. -/
def submissions : List Action :=
  let caller : Action := .launch ((Work.dispatch submission).program (stages [] .default))
  [caller, caller, .step 0, .step 1, .answer 0 (.ok (.string "0xaa")),
    .answer 1 (.error (.internal "already known")), .step 0, .step 1]

/-- The transaction is sent for each of them, and each is told its own answer. -/
theorem passes_once_of_submissions :
    (MethodTable.spec [] "eth_sendRawTransaction").Passes ∧
    (MethodTable.builtin.spec "eth_sendRawTransaction").Passes ∧
    (MethodTable.builtin.spec "eth_subscribe").Passes ∧
    (∃ r o inspection, r = submission ∧
      PassesOnce ((start .default).run submissions) 1 r o inspection) ∧
    (((start .default).run submissions).requests.filter (·.1 ∈ [0, 1])).length = 2 ∧
    ((start .default).run (submissions.take 5)).caches =
      ((start .default).run (submissions.take 4)).caches := by
  obtain ⟨⟨hunlisted, hnever, hlisted⟩, hruns⟩ := passes_once
  obtain ⟨hpasses, hcounted, huntouched⟩ := @hruns [] .default submissions
  have hw : (Work.dispatch submission).Passes [] := by
    refine ⟨⟨submission, rfl⟩, ?_⟩
    rintro r rfl
    exact hunlisted rfl
  have hfirst : Employs [] .default submissions 0 (.dispatch submission) :=
    ⟨[], _, rfl, rfl⟩
  have hsecond : Employs [] .default submissions 1 (.dispatch submission) :=
    ⟨[_], _, rfl, rfl⟩
  refine ⟨hunlisted rfl, hnever (MethodTable.never_of_mem_uncachedMethods (by decide)),
    hlisted _ (by decide), hpasses hsecond hw, ?counted, ?step⟩
  case counted =>
    refine hcounted (by decide) ?_
    simp only [List.forall_mem_cons, List.not_mem_nil, false_imp_iff, implies_true, and_true]
    exact ⟨⟨_, _, hfirst, hw, rfl⟩, ⟨_, _, hsecond, hw, rfl⟩⟩
  case step => exact (@huntouched 0 _ (submissions.take 4) (.answer 0 _) hfirst hw ⟨_, rfl⟩ rfl).1

end Client

end EthRpc
