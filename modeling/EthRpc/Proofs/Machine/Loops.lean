-- SUMMARY: A poll loop that was told to stop sends no more polls, and ends with the poll that it had under way.
import EthRpc.Proofs.Machine.Courses
import EthRpc.Proofs.Machine.Lives

/-!
# Poll loops

A loop that was told to stop may be anywhere: about to ask for the turn, waiting
for it, in the middle of a poll, or between two polls. From each of these places
it goes on to its end without sending a poll. What is still recorded about it
depends on where it was.
-/

namespace EthRpc.Machine

/-- For a poll loop, whether it was told to stop. -/
def Activity.stopped? (a : Activity) : Option Bool :=
  match a.seeker? with
  | some (.loop _ stopped) => some stopped
  | _ => none

/-- The task is a poll loop that was not told to stop. -/
def Loops (m : Machine) (t : TaskId) : Prop :=
  ∃ a, m.activity? t = some a ∧ a.stopped? = some false

namespace Activity

variable {a : Activity} {stopped : Bool}

theorem isLoop_of_stopped? (h : a.stopped? = some stopped) : a.isLoop := by
  unfold stopped? at h
  split at h
  next b stopped' hs => exact ⟨b, stopped', hs⟩
  next => cases h

theorem exists_stopped?_of_isLoop (h : a.isLoop) : ∃ stopped, a.stopped? = some stopped := by
  obtain ⟨b, stopped, hs⟩ := h
  exact ⟨stopped, by simp [stopped?, hs]⟩

theorem stopped?_stop (h : a.stopped? = some stopped) : a.stop.stopped? = some true := by
  obtain ⟨b, stopped', hs⟩ := isLoop_of_stopped? h
  cases a <;> simp_all [seeker?, stop, Seeker.stop, stopped?]

/-- Telling a loop to stop that was told before changes nothing. -/
theorem stop_of_stopped (h : a.stopped? = some true) : a.stop = a := by
  obtain ⟨b, stopped', hs⟩ := isLoop_of_stopped? h
  cases a <;> simp_all [seeker?, stop, Seeker.stop, stopped?]

/-- Nobody goes on as a loop after being told to stop. -/
theorem stopped?_stop_ne (a : Activity) : a.stop.stopped? ≠ some false := by
  intro h
  obtain ⟨stopped, hs⟩ := exists_stopped?_of_isLoop (isLoop_of_stop (isLoop_of_stopped? h))
  rw [stopped?_stop hs] at h
  cases h

end Activity

/-! ## Moves of a loop -/

section Moves

variable {m : Machine} {a : Action} {t : TaskId} {old new : Activity}

/-- A loop that goes on was going on before. -/
theorem going_of_moves (h : Moves m a t old new) (hnew : new.stopped? = some false) :
    old.stopped? = some false := by
  cases h with
  | stay => exact hnew
  | own h =>
    cases h with
    | wait => exact hnew
    | poll hl => cases hl <;> exact hnew
    | pause => exact hnew
    | _ => cases hnew
  | informed | again | admitted => exact hnew
  | stopped => exact absurd hnew (Activity.stopped?_stop_ne old)
  | _ => cases hnew

/-- A loop goes on unless it crashes or is told to stop. -/
theorem moves_of_going (h : Moves m a t old new) (hold : old.stopped? = some false)
    (hrole : m.role? t ≠ some .caller) (hcalm : ∀ u, a ≠ .crash u)
    (hstay : ∀ i, a ≠ .unsubscribe i) : new.stopped? = some false := by
  cases h with
  | stay => exact hold
  | own h =>
    cases h with
    | wait => exact hold
    | poll hl => cases hl <;> exact hold
    | learn hl => cases hl <;> cases hold
    | give hl => cases hl <;> cases hold
    | pause => exact hold
    | _ => cases hold
  | informed | again | admitted => exact hold
  | crashed => exact absurd rfl (hcalm _)
  | cancelled hcaller => exact absurd hcaller hrole
  | stopped => exact absurd rfl (hstay _)
  | _ => cases hold

end Moves

/-! ## After the stop -/

/-- What may still be recorded about a loop that was told to stop while it did this. -/
inductive Remains (t : TaskId) : Activity → List Event → Prop where
  | nothing {a : Activity} : Remains t a []
  | answered {q : Request} {s : Seeker} {r : Outcome} :
      Remains t (.polling q s) [.answered t r]
  | completed {q : Request} {s : Seeker} {r : Outcome} {d : Duration} :
      Remains t (.polling q s)
        [.answered t r, .polled t (Tracker.polledHead r), .timer t d]
  | noted {r : Outcome} {s : Seeker} {d : Duration} :
      Remains t (.polled r s) [.polled t (Tracker.polledHead r), .timer t d]

section Stopped

variable {m : Machine} {a : Action} {t : TaskId} {old new : Activity} {es : List Event}

theorem Remains.not_sent (h : Remains t old es) (q : Request) : .sent t true q ∉ es := by
  cases h <;> simp

theorem Remains.eq_nil_of_isOver (h : Remains t old es) (hover : old.isOver) : es = [] := by
  cases h with
  | nothing => rfl
  | _ => cases hover

/-- What is over is recorded no more. -/
theorem traced_of_isOver (hold : m.activity? t = some old) (hover : old.isOver) (a : Action) :
    m.traced a t = [] := by
  refine traced_eq_nil fun e he htask => ?_
  rcases (emits_of_mem_events he).eq_of_task htask with rfl | ⟨r, rfl⟩ <;>
    cases old <;> simp_all [events, Activity.isOver]

theorem traced_of_other (hstep : a ≠ .step t) (hanswer : ∀ r, a ≠ .answer t r) :
    m.traced a t = [] := by
  refine traced_eq_nil fun e he htask => ?_
  rcases (emits_of_mem_events he).eq_of_task htask with rfl | ⟨r, rfl⟩
  · exact hstep rfl
  · exact hanswer r rfl

/-- A loop that ends its poll asks for a timer. -/
theorem traced_of_polled {r : Outcome} {b : Backoff} {stopped : Bool}
    (hold : m.activity? t = some (.polled r (.loop b stopped))) :
    m.traced (.step t) t =
      [.polled t (Tracker.polledHead r), .timer t (m.pauseAfter b (Tracker.polledHead r)).1] := by
  simp [traced, events, hold, timerEvents_loop, Event.task?]

/-- Who waits for no answer does not notice one. -/
theorem act_answer_of_deaf (hold : m.activity? t = some old) (hcalling : ∀ q k, old ≠ .calling q k)
    (hpolling : ∀ q s, old ≠ .polling q s) (r : Outcome) : m.act (.answer t r) = m := by
  simp only [act, hold]
  split
  next h => exact absurd (Option.some.inj h) (hcalling _ _)
  next h => exact absurd (Option.some.inj h) (hpolling _ _)
  next => rfl

/-- What happens to a loop that was told to stop, other than by a step or an answer. -/
theorem stopped_of_moves (h : Moves m a t old new) (hold : old.stopped? = some true)
    (hstep : a ≠ .step t) (hanswer : ∀ r, a ≠ .answer t r) :
    (new.stopped? = some true ∨ new.isOver) ∧ ∀ es, Remains t new es → Remains t old es := by
  cases h with
  | stay => exact ⟨.inl hold, fun _ => id⟩
  | own => exact absurd rfl hstep
  | answered | informed => exact absurd rfl (hanswer _)
  | crashed | cancelled =>
    refine ⟨.inr rfl, fun es hes => ?_⟩
    rw [hes.eq_nil_of_isOver rfl]
    exact .nothing
  | again | admitted =>
    refine ⟨.inl hold, fun es hes => ?_⟩
    cases hes
    exact .nothing
  | stopped =>
    rw [Activity.stop_of_stopped hold]
    exact ⟨.inl hold, fun _ => id⟩
  | _ => cases hold

theorem stopped_step (hold : m.activity? t = some old) (hs : old.stopped? = some true) :
    ∃ new, (m.act (.step t)).activity? t = some new ∧ (new.stopped? = some true ∨ new.isOver) ∧
      ∀ es, Remains t new es → Remains t old (m.traced (.step t) t ++ es) := by
  cases hrun : old.canRun with
  | false =>
    have hsame := act_step_of_not_canRun hold hrun
    refine ⟨old, by rw [hsame, hold], .inl hs, fun es hes => ?_⟩
    rwa [traced_of_act_eq hsame]
  | true =>
    obtain ⟨-, new, hnew, hadv⟩ := advancesTo_advance hold hrun
    refine ⟨new, hnew, ?_⟩
    cases hadv with
    | wait hbusy =>
      have hnone : m.traced (.step t) t = [] := by simp [traced, events, hold, hbusy]
      refine ⟨.inl hs, fun es hes => ?_⟩
      cases hes
      rw [hnone]
      exact .nothing
    | @give _ b hl =>
      have hnone : m.traced (.step t) t = [] := by
        rw [traced_of_looks hold hl]
        rfl
      refine ⟨.inr rfl, fun es hes => ?_⟩
      cases hes
      rw [hnone]
      exact .nothing
    | @poll _ s hl hneeds =>
      cases s with
      | query q k => cases hl <;> cases hs
      | loop b stopped =>
        obtain rfl : stopped = true := by cases hl <;> exact Option.some.inj hs
        cases hneeds
    | @pause r b b' stopped wait _ =>
      refine ⟨.inl hs, fun es hes => ?_⟩
      cases hes
      rw [traced_of_polled hold]
      exact .noted
    | wake =>
      have hnone : m.traced (.step t) t = [] := by simp [traced, events, hold]
      refine ⟨.inr rfl, fun es hes => ?_⟩
      cases hes
      rw [hnone]
      exact .nothing
    | learn hl => cases hl <;> cases hs
    | _ => cases hs

theorem stopped_answer (hold : m.activity? t = some old) (hs : old.stopped? = some true)
    (r : Outcome) :
    ∃ new, (m.act (.answer t r)).activity? t = some new ∧
      (new.stopped? = some true ∨ new.isOver) ∧
      ∀ es, Remains t new es → Remains t old (m.traced (.answer t r) t ++ es) := by
  by_cases hpolling : ∃ q s, old = .polling q s
  · obtain ⟨q, s, rfl⟩ := hpolling
    have hnew : (m.act (.answer t r)).activity? t = some (.polled r s) := by
      simp only [act, hold]
      exact activity?_setActivity_self (m := m.record _) hold
    have hanswered : m.traced (.answer t r) t = [.answered t r] := by
      simp [traced, events, hold, Event.task?]
    refine ⟨_, hnew, .inl hs, fun es hes => ?_⟩
    rw [hanswered]
    cases hes with
    | nothing => exact .answered
    | noted => exact .completed
  · simp only [not_exists] at hpolling
    have hcalling : ∀ q k, old ≠ .calling q k := by
      rintro q k rfl
      cases hs
    have hsame := act_answer_of_deaf hold hcalling hpolling r
    refine ⟨old, by rw [hsame, hold], .inl hs, fun es hes => ?_⟩
    rwa [traced_of_act_eq hsame]

/-- A loop that was told to stop stays so until it is over, and each action takes its part of what
remains to be recorded. -/
theorem stopped_act (hold : m.activity? t = some old) (hs : old.stopped? = some true)
    (a : Action) :
    ∃ new, (m.act a).activity? t = some new ∧ (new.stopped? = some true ∨ new.isOver) ∧
      ∀ es, Remains t new es → Remains t old (m.traced a t ++ es) := by
  by_cases hstep : a = .step t
  · rw [hstep]
    exact stopped_step hold hs
  · by_cases hanswer : ∃ r, a = .answer t r
    · obtain ⟨r, rfl⟩ := hanswer
      exact stopped_answer hold hs r
    · simp only [not_exists] at hanswer
      obtain ⟨new, hnew, hmoves⟩ := movesTo_act m a t old hold
      obtain ⟨hstays, hremains⟩ := stopped_of_moves hmoves hs hstep hanswer
      refine ⟨new, hnew, hstays, ?_⟩
      rw [traced_of_other hstep hanswer]
      exact hremains

/-- Over any run, no more is recorded about a loop that was told to stop than what remained. -/
theorem stopped_run (hold : m.activity? t = some old)
    (hs : old.stopped? = some true ∨ old.isOver) (actions : List Action) :
    ∃ es, (m.run actions).trace t = m.trace t ++ es ∧ Remains t old es := by
  induction actions generalizing m old with
  | nil => exact ⟨[], by simp, .nothing⟩
  | cons a rest ih =>
    rw [run_cons]
    rcases hs with hs | hover
    · obtain ⟨new, hnew, hstays, hremains⟩ := stopped_act hold hs a
      obtain ⟨es, htrace, hes⟩ := ih hnew hstays
      refine ⟨m.traced a t ++ es, ?_, hremains es hes⟩
      rw [htrace, trace_act, List.append_assoc]
    · obtain ⟨es, htrace, hes⟩ := ih (activity?_act_of_isOver hold hover a) (.inr hover)
      refine ⟨es, ?_, hes⟩
      rw [htrace, trace_act, traced_of_isOver hold hover, List.append_nil]

end Stopped

end EthRpc.Machine
