-- SUMMARY: What an action does to the requests that tasks wait for: it sends one, answers one, or lets a task go that waits.
import EthRpc.Proofs.Machine.SharedRuns
import EthRpc.Proofs.Tracker.Polls

/-!
# Requests under way

A task waits for the answer to one request at a time, for a caller or to poll. An
action that sends a request or answers one is recorded and does nothing else to
what is under way. Besides that, a request is left behind when its task is taken
down or goes away, and of this there is no record.
-/

namespace EthRpc.Machine

/-- The request that a task waits for. -/
def Activity.request? : Activity → Option Request
  | calling q _ | polling q _ => some q
  | _ => none

/-- The task has been taken down, or has gone away. -/
def Activity.IsGone (a : Activity) : Prop := a = .crashed ∨ a = .cancelled

/-- What becomes of the request of a task by an action. -/
inductive Turns (m : Machine) (a : Action) (t : TaskId) (old new : Activity) : Prop where
  | keeps : new.request? = old.request? → Turns m a t old new
  | goes : new.IsGone → Turns m a t old new
  | sends {poll : Bool} {q : Request} : m.events a = [.sent t poll q] → old.request? = none →
      new.request? = some q → Turns m a t old new
  | hears {r : Outcome} : m.events a = [.answered t r] → new.request? = none → Turns m a t old new

section Turns

variable {m : Machine} {a : Action} {t u : TaskId} {old new : Activity}

theorem events_of_send {q : Request} {k : Outcome → Program}
    (hold : m.activity? t = some (.running (.ask (.send q) k))) :
    m.events (.step t) = [.sent t false q] := by
  simp [events, hold, commandEvents]

theorem events_of_answer {q : Request} (hold : m.activity? t = some old)
    (hq : old.request? = some q) (r : Outcome) : m.events (.answer t r) = [.answered t r] := by
  cases old with
  | calling q k | polling q s => simp [events, hold]
  | _ => cases hq

theorem turns_of_advances (hold : m.activity? t = some old) (h : m.Advances old new) :
    m.Turns (.step t) t old new := by
  cases h with
  | send => exact .sends (events_of_send hold) rfl rfl
  | poll hl hneeds =>
    have hnone : old.request? = none := by cases hl <;> rfl
    exact .sends (events_of_needsPoll hold hl hneeds) hnone rfl
  | learn hl _ | give hl => cases hl <;> exact .keeps rfl
  | _ => exact .keeps rfl

/-- Whatever happens, a task keeps what it waits for, or goes, or the action is about its request. -/
theorem turns_of_moves (hold : m.activity? t = some old) (h : Moves m a t old new) :
    m.Turns a t old new := by
  cases h with
  | own hadv => exact turns_of_advances hold hadv
  | answered | informed => exact .hears (events_of_answer hold rfl _) rfl
  | crashed => exact .goes (.inl rfl)
  | cancelled => exact .goes (.inr rfl)
  | stopped => cases old <;> exact .keeps rfl
  | _ => exact .keeps rfl

theorem request?_of_spawns {role : Role} (h : m.spawned? a = some ⟨role, new⟩) :
    new.request? = none := by
  cases spawns_of_spawned? h <;> rfl

/-- Who is gone waits for nothing and does not come back. -/
theorem Activity.IsGone.isOver (h : old.IsGone) : old.isOver := by
  rcases h with rfl | rfl <;> rfl

/-- A request is sent by a task that waits for none, and that waits for it from then on. -/
theorem exists_of_sent {poll : Bool} {q : Request} (h : .sent t poll q ∈ m.events a) :
    m.events a = [.sent t poll q] ∧ (∃ old, m.activity? t = some old ∧ old.request? = none) ∧
      ∃ new, (m.act a).activity? t = some new ∧ new.request? = some q := by
  generalize hevent : Event.sent t poll q = e at h
  cases emits_of_mem_events h with
  | @sent _ _ k hold =>
    cases hevent
    refine ⟨events_of_send hold, ⟨_, hold, rfl⟩, .calling q k, ?_, rfl⟩
    simp only [act, advance, hold, perform]
    exact activity?_setActivity_self (m := m.record _) hold
  | @asked _ old s hold hl hneeds =>
    cases hevent
    have hnone : old.request? = none := by cases hl <;> rfl
    exact ⟨events_of_needsPoll hold hl hneeds, ⟨_, hold, hnone⟩, _,
      activity?_act_of_needsPoll hold hl hneeds, rfl⟩
  | _ => cases hevent

/-- An answer comes to a task that waits for one, and that does not wait any more. -/
theorem exists_of_answered {r : Outcome} (h : .answered t r ∈ m.events a) :
    m.events a = [.answered t r] ∧
      (∃ old q, m.activity? t = some old ∧ old.request? = some q) ∧
      ∃ new, (m.act a).activity? t = some new ∧ new.request? = none ∧ new.isOver = false := by
  generalize hevent : Event.answered t r = e at h
  cases emits_of_mem_events h with
  | answered =>
    cases hevent
    simp only [events] at h
    split at h
    next q k hold =>
      refine ⟨events_of_answer hold rfl r, ⟨_, q, hold, rfl⟩, .running (k r), ?_, rfl, rfl⟩
      simp only [act, hold]
      exact activity?_setActivity_self (m := m.record _) hold
    next q s hold =>
      refine ⟨events_of_answer hold rfl r, ⟨_, q, hold, rfl⟩, .polled r s, ?_, rfl, rfl⟩
      simp only [act, hold]
      exact activity?_setActivity_self (m := m.record _) hold
    next => cases h
  | _ => cases hevent

end Turns

/-! ## Requests without an answer -/

/-- A task waits for the answer to a request of some method. -/
def Waits (m : Machine) (method : String) (t : TaskId) : Prop :=
  ∃ old q, m.activity? t = some old ∧ old.request? = some q ∧ q.method = method

/-- In a run from `m`, a task was taken down or went away while it waited for such an answer. -/
def Drops (m : Machine) (actions : List Action) (method : String) (t : TaskId) : Prop :=
  ∃ b a gone, b ++ [a] <+: actions ∧ (m.run b).Waits method t ∧
    (m.run (b ++ [a])).activity? t = some gone ∧ gone.IsGone

/-- A task has sent a request of some method that is not answered. -/
def Lacks (m : Machine) (actions : List Action) (method : String) (t : TaskId) : Prop :=
  (m.run actions).Waits method t ∨ m.Drops actions method t

section Lacks

variable {m : Machine} {actions : List Action} {a : Action} {t : TaskId} {method : String}
  {old : Activity}

theorem Waits.request? (h : m.Waits method t) (hold : m.activity? t = some old) :
    ∃ q, old.request? = some q ∧ q.method = method := by
  obtain ⟨old', q, hold', hq, hmethod⟩ := h
  rw [hold] at hold'
  cases hold'
  exact ⟨q, hq, hmethod⟩

theorem Drops.activity? (h : m.Drops actions method t) :
    ∃ gone, (m.run actions).activity? t = some gone ∧ gone.IsGone := by
  obtain ⟨b, a, gone, ⟨rest, rfl⟩, -, hgone, hover⟩ := h
  rw [run_append]
  exact ⟨gone, activity?_run_of_isOver hgone hover.isOver rest, hover⟩

theorem Drops.later (h : m.Drops actions method t) (a : Action) :
    m.Drops (actions ++ [a]) method t := by
  obtain ⟨b, x, gone, hb, hwaits, hgone⟩ := h
  exact ⟨b, x, gone, hb.trans (List.prefix_append _ _), hwaits, hgone⟩

/-- A task is left without an answer at the last moment of a run, or was before. -/
theorem Drops.of_concat (h : m.Drops (actions ++ [a]) method t) :
    (m.run actions).Waits method t ∨ m.Drops actions method t := by
  obtain ⟨b, x, gone, hb, hwaits, hgone⟩ := h
  rcases List.prefix_concat_iff.1 hb with heq | hb
  · obtain ⟨rfl, -⟩ := List.append_inj' heq rfl
    exact .inl hwaits
  · exact .inr ⟨b, x, gone, hb, hwaits, hgone⟩

/-- Who has gone without an answer does not wait for one. -/
theorem Activity.IsGone.request? (h : old.IsGone) : old.request? = none := by
  rcases h with rfl | rfl <;> rfl

theorem Lacks.of_request?_none (h : m.Lacks actions method t)
    (hold : (m.run actions).activity? t = some old) (hnone : old.request? = none) :
    old.IsGone := by
  rcases h with hwaits | hdrops
  · obtain ⟨q, hq, -⟩ := hwaits.request? hold
    rw [hnone] at hq
    cases hq
  · obtain ⟨gone, hgone, hisGone⟩ := hdrops.activity?
    rw [hold] at hgone
    cases hgone
    exact hisGone

/-- An action that is not about the request of a task leaves it without an answer or not, as it
was. -/
theorem lacks_concat_iff (hsent : ∀ poll q, .sent t poll q ∉ (m.run actions).events a)
    (hanswered : ∀ r, .answered t r ∉ (m.run actions).events a) :
    m.Lacks (actions ++ [a]) method t ↔ m.Lacks actions method t := by
  have hturns {old new : Activity} (hold : (m.run actions).activity? t = some old)
      (hmoves : Moves (m.run actions) a t old new) :
      new.request? = old.request? ∨ new.IsGone := by
    cases turns_of_moves hold hmoves with
    | keeps hkeeps => exact .inl hkeeps
    | goes hgoes => exact .inr hgoes
    | sends hevents => exact absurd (hevents ▸ List.mem_singleton_self _) (hsent _ _)
    | hears hevents => exact absurd (hevents ▸ List.mem_singleton_self _) (hanswered _)
  constructor
  · rintro (⟨new, q, hnew, hq, hmethod⟩ | hdrops)
    · rw [run_concat] at hnew
      rcases activity?_act_cases hnew with ⟨old, hold, hmoves⟩ | ⟨-, role, hspawned⟩
      · rcases hturns hold hmoves with hkeeps | hgone
        · exact .inl ⟨old, q, hold, hkeeps ▸ hq, hmethod⟩
        · rw [hgone.request?] at hq
          cases hq
      · rw [request?_of_spawns hspawned] at hq
        cases hq
    · exact hdrops.of_concat
  · rintro (hwaits | hdrops)
    · obtain ⟨old, q, hold, hq, hmethod⟩ := hwaits
      obtain ⟨new, hnew, hmoves⟩ := movesTo_act (m.run actions) a t old hold
      rw [← run_concat] at hnew
      rcases hturns hold hmoves with hkeeps | hgone
      · exact .inl ⟨new, q, hnew, hkeeps ▸ hq, hmethod⟩
      · exact .inr ⟨actions, a, new, List.prefix_refl _, ⟨old, q, hold, hq, hmethod⟩, hnew, hgone⟩
    · exact .inr (hdrops.later a)

/-- Who sends a request lacked no answer before, and lacks one to this request from then on. -/
theorem lacks_of_sent {poll : Bool} {q : Request}
    (h : .sent t poll q ∈ (m.run actions).events a) :
    ¬m.Lacks actions method t ∧ (m.Lacks (actions ++ [a]) method t ↔ q.method = method) := by
  obtain ⟨-, ⟨old, hold, hnone⟩, new, hnew, hq⟩ := exists_of_sent h
  have hnot : ¬m.Lacks actions method t := by
    intro hlacks
    have hover := (hlacks.of_request?_none hold hnone).isOver
    rw [activity?_act_of_isOver hold hover a] at hnew
    cases hnew
    rw [hnone] at hq
    cases hq
  rw [← run_concat] at hnew
  refine ⟨hnot, ?_, fun hmethod => .inl ⟨new, q, hnew, hq, hmethod⟩⟩
  rintro (hwaits | hdrops)
  · obtain ⟨q', hq', hmethod⟩ := hwaits.request? hnew
    rw [hq] at hq'
    cases hq'
    exact hmethod
  · exact absurd hdrops.of_concat hnot

/-- Who is answered waited for this, and lacks no answer any more. -/
theorem lacks_of_answered {r : Outcome} (h : .answered t r ∈ (m.run actions).events a) :
    (∃ method, m.Lacks actions method t) ∧ ∀ method, ¬m.Lacks (actions ++ [a]) method t := by
  obtain ⟨-, ⟨old, q, hold, hq⟩, new, hnew, hnone, halive⟩ := exists_of_answered h
  rw [← run_concat] at hnew
  refine ⟨⟨q.method, .inl ⟨old, q, hold, hq, rfl⟩⟩, fun method hlacks => ?_⟩
  have hover := (hlacks.of_request?_none hnew hnone).isOver
  rw [halive] at hover
  cases hover

end Lacks

end EthRpc.Machine
