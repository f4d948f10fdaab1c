-- SUMMARY: What the record of a run tells: which requests got which answers, which heads polls reported, what was stored.
import Mathlib.Data.List.Induction
import EthRpc.Proofs.Machine.Tables

/-!
# History

The record only grows. A task that waits for the endpoint has done nothing since
it sent its request, so the answer that comes next is the answer to this request.
-/

namespace EthRpc.Machine

/-! ## Reading the record -/

/-- The task that an event is about. -/
def Event.task? : Event → Option TaskId
  | sent t _ _ | answered t _ | polled t _ | timer t _ | stored t _ _ _ | recalled t _ _ _
  | finished t _ => some t
  | marked _ _ => none

/-- The request that a task sends, and the task, if it is no poll. -/
def Event.request? : Event → Option (TaskId × Request)
  | sent t false q => some (t, q)
  | _ => none

/-- The requests that tasks have sent, polls apart, in order. -/
def requests (m : Machine) : List (TaskId × Request) :=
  m.log.reverse.filterMap (·.2.request?)

/-- The last event about a task, in a record that has the last event first. -/
def lastEvent? (t : TaskId) (log : List (Duration × Event)) : Option Event :=
  (log.find? (·.2.task? = some t)).map (·.2)

/-- The endpoint answered a request: between sending and answer, the task did nothing else. -/
def Exchanged (m : Machine) (q : Request) (r : Outcome) : Prop :=
  ∃ t later time earlier, m.log = later ++ (time, .answered t r) :: earlier ∧
    lastEvent? t earlier = some (.sent t false q)

/-- A poll reported a head. -/
def Reported (m : Machine) (h : BlockHead) : Prop := ∃ time t, (time, .polled t (.ok h)) ∈ m.log

/-- A task stored a value in a cache. -/
def Stored (m : Machine) (t : TaskId) (i : Nat) (key : String) (v : Json) : Prop :=
  ∃ time, (time, .stored t i key v) ∈ m.log

/-- A value came out of a cache for a task. -/
def Recalled (m : Machine) (t : TaskId) (i : Nat) (key : String) (v : Json) : Prop :=
  ∃ time, (time, .recalled t i key v) ∈ m.log

section Suffix

variable {m m' : Machine} (h : m.log <:+ m'.log)

include h

theorem Exchanged.of_suffix {q : Request} {r : Outcome} (he : m.Exchanged q r) :
    m'.Exchanged q r := by
  obtain ⟨t, later, time, earlier, hlog, hlast⟩ := he
  obtain ⟨more, hmore⟩ := h
  exact ⟨t, more ++ later, time, earlier, by rw [← hmore, hlog, List.append_assoc], hlast⟩

theorem Reported.of_suffix {head : BlockHead} (hr : m.Reported head) : m'.Reported head := by
  obtain ⟨time, t, hmem⟩ := hr
  exact ⟨time, t, h.subset hmem⟩

theorem Stored.of_suffix {t : TaskId} {i : Nat} {key : String} {v : Json}
    (hs : m.Stored t i key v) : m'.Stored t i key v := by
  obtain ⟨time, hmem⟩ := hs
  exact ⟨time, h.subset hmem⟩

end Suffix

/-! ## Events of a step -/

/-- An action may leave this event, and what it took for that. -/
inductive Emits (m : Machine) : Action → Event → Prop where
  | sent {t : TaskId} {q : Request} {k : Outcome → Program} :
      m.activity? t = some (.running (.ask (.send q) k)) → Emits m (.step t) (.sent t false q)
  | asked {t : TaskId} {old : Activity} {s : Seeker} : m.activity? t = some old → m.Looks old s →
      m.needsPoll s → Emits m (.step t) (.sent t true m.tracker.pollRequest)
  | answered {t : TaskId} {r : Outcome} : Emits m (.answer t r) (.answered t r)
  | polled {t : TaskId} {r : Outcome} {s : Seeker} : m.activity? t = some (.polled r s) →
      Emits m (.step t) (.polled t (Tracker.polledHead r))
  | timer {t : TaskId} {r : Outcome} {b b' : Backoff} {stopped : Bool} {d : Duration} :
      m.activity? t = some (.polled r (.loop b stopped)) →
      m.pauseAfter b (Tracker.polledHead r) = (d, b') → Emits m (.step t) (.timer t d)
  | marked {t : TaskId} {label : String} {entering : Bool} :
      Emits m (.step t) (.marked label entering)
  | stored {t : TaskId} {i : Nat} {key : String} {v : Json} {k : Unit → Program} :
      m.activity? t = some (.running (.ask (.keep i key v) k)) →
      Emits m (.step t) (.stored t i key v)
  | recalled {t : TaskId} {i : Nat} {key : String} {v : Json} {k : Option Json → Program} :
      m.activity? t = some (.running (.ask (.lookup i key) k)) →
      Emits m (.step t) (.recalled t i key v)
  | finished {t : TaskId} {r : Outcome} : m.activity? t = some (.running (.done r)) →
      Emits m (.step t) (.finished t r)

section Emits

variable {m : Machine} {a : Action} {t : TaskId} {e : Event}

theorem emits_of_mem_commandEvents {c : Command} {k : c.Reply → Program}
    (h : m.activity? t = some (.running (.ask c k))) (he : e ∈ m.commandEvents t c) :
    m.Emits (.step t) e := by
  cases c with
  | send q =>
    obtain rfl := List.mem_singleton.1 he
    exact .sent h
  | lookup i key =>
    simp only [commandEvents] at he
    split at he
    · obtain rfl := List.mem_singleton.1 he
      exact .recalled h
    · cases he
  | keep i key v =>
    obtain rfl := List.mem_singleton.1 he
    exact .stored h
  | mark label entering =>
    obtain rfl := List.mem_singleton.1 he
    exact .marked
  | _ => cases he

theorem emits_of_mem_pollEvents {old : Activity} {s : Seeker} (h : m.activity? t = some old)
    (hl : m.Looks old s) (he : e ∈ m.pollEvents t s) : m.Emits (.step t) e := by
  simp only [pollEvents] at he
  split at he
  next hneeds =>
    obtain rfl := List.mem_singleton.1 he
    exact .asked h hl hneeds
  next => cases he

theorem timerEvents_loop (m : Machine) (t : TaskId) (head : Except RpcError BlockHead) (b : Backoff)
    (stopped : Bool) :
    m.timerEvents t head (.loop b stopped) = [.timer t (m.pauseAfter b head).1] := by
  cases head <;> rfl

theorem emits_of_mem_timerEvents {r : Outcome} {s : Seeker} (h : m.activity? t = some (.polled r s))
    (he : e ∈ m.timerEvents t (Tracker.polledHead r) s) : m.Emits (.step t) e := by
  cases s with
  | query q k => cases he
  | loop b stopped =>
    rw [timerEvents_loop] at he
    obtain rfl := List.mem_singleton.1 he
    exact .timer h rfl

theorem emits_of_mem_events (he : e ∈ m.events a) : m.Emits a e := by
  cases a with
  | step t =>
    simp only [events] at he
    split at he
    next r h =>
      obtain rfl := List.mem_singleton.1 he
      exact .finished h
    next c k h => exact emits_of_mem_commandEvents h he
    next s h =>
      split at he
      next hfree => exact emits_of_mem_pollEvents h (.seeking (by simpa using hfree)) he
      next => cases he
    next s h => exact emits_of_mem_pollEvents h .admitted he
    next r s h =>
      rcases List.mem_append.1 he with he | he
      · exact emits_of_mem_timerEvents h he
      · obtain rfl := List.mem_singleton.1 he
        exact .polled h
    next => cases he
  | answer t r =>
    simp only [events] at he
    split at he
    · obtain rfl := List.mem_singleton.1 he
      exact .answered
    · obtain rfl := List.mem_singleton.1 he
      exact .answered
    · cases he
  | _ => cases he

/-- Only its own steps and its answers are events about a task. -/
theorem Emits.eq_of_task (he : m.Emits a e) (ht : e.task? = some t) :
    a = .step t ∨ ∃ r, a = .answer t r := by
  cases he with
  | answered =>
    cases ht
    exact .inr ⟨_, rfl⟩
  | marked => cases ht
  | _ =>
    cases ht
    exact .inl rfl

end Emits

/-! ## The record over a run -/

theorem log_suffix_act (m : Machine) (a : Action) : m.log <:+ (m.act a).log := by
  rw [(effect_act m a).log]
  exact List.suffix_append _ _

theorem log_suffix_run (m : Machine) (actions : List Action) : m.log <:+ (m.run actions).log := by
  induction actions generalizing m with
  | nil => exact List.suffix_refl _
  | cons a rest ih => exact (log_suffix_act m a).trans (ih (m.act a))

section Step

variable {m : Machine} {a : Action} {t : TaskId}

theorem mem_log_act {time : Duration} {e : Event} :
    (time, e) ∈ (m.act a).log ↔ time = m.now ∧ e ∈ m.events a ∨ (time, e) ∈ m.log := by
  rw [(effect_act m a).log, List.mem_append, List.mem_map]
  constructor
  · rintro (⟨e', he', heq⟩ | hmem)
    · cases heq
      exact .inl ⟨rfl, he'⟩
    · exact .inr hmem
  · rintro (⟨rfl, he⟩ | hmem)
    · exact .inl ⟨e, he, rfl⟩
    · exact .inr hmem

/-- What is recorded has its moment. -/
theorem exists_emits {settings : Tracker.Settings} {capacities : List Nat} {tables : Nat}
    {actions : List Action} {time : Duration} {e : Event}
    (h : (time, e) ∈ ((start settings capacities tables).run actions).log) :
    ∃ b a, b ++ [a] <+: actions ∧ ((start settings capacities tables).run b).Emits a e := by
  induction actions using List.reverseRecOn with
  | nil => cases h
  | append_singleton actions a ih =>
    rw [run_append] at h
    rcases mem_log_act.1 h with ⟨-, he⟩ | hbefore
    · exact ⟨actions, a, List.prefix_refl _, emits_of_mem_events he⟩
    · obtain ⟨b, a', hb, hemits⟩ := ih hbefore
      exact ⟨b, a', hb.trans (List.prefix_append _ _), hemits⟩

/-- A request that is no poll was sent at some moment. -/
theorem exists_sends {settings : Tracker.Settings} {capacities : List Nat} {tables : Nat}
    {actions : List Action} {q : Request}
    (h : (t, q) ∈ ((start settings capacities tables).run actions).requests) :
    ∃ b k, b ++ [.step t] <+: actions ∧
      ((start settings capacities tables).run b).activity? t =
        some (.running (.ask (.send q) k)) := by
  obtain ⟨⟨time, e⟩, he, hq⟩ := List.mem_filterMap.1 h
  obtain ⟨b, a, hb, hemits⟩ := exists_emits (List.mem_reverse.1 he)
  cases hemits with
  | sent hsending =>
    cases hq
    exact ⟨b, _, hb, hsending⟩
  | _ => cases hq

theorem stored_act {i : Nat} {key : String} {v : Json} (h : (m.act a).Stored t i key v) :
    m.Stored t i key v ∨
      a = .step t ∧ ∃ k, m.activity? t = some (.running (.ask (.keep i key v) k)) := by
  obtain ⟨time, hmem⟩ := h
  rcases mem_log_act.1 hmem with ⟨-, he⟩ | hmem
  · cases emits_of_mem_events he with
    | stored h => exact .inr ⟨rfl, _, h⟩
  · exact .inl ⟨time, hmem⟩

theorem reported_of_polled {r : Outcome} {s : Seeker} {h : BlockHead}
    (hold : m.activity? t = some (.polled r s)) (hr : Tracker.polledHead r = .ok h) :
    (m.act (.step t)).Reported h := by
  refine ⟨m.now, t, mem_log_act.2 (.inl ⟨rfl, ?_⟩)⟩
  simp [events, hold, hr]

theorem lastEvent?_act (h : ∀ e ∈ m.events a, e.task? ≠ some t) :
    lastEvent? t (m.act a).log = lastEvent? t m.log := by
  have hnone : ((m.events a).map (m.now, ·)).find? (·.2.task? = some t) = none := by
    simpa using h
  rw [(effect_act m a).log, lastEvent?, List.find?_append, hnone]
  rfl

end Step

/-! ## Requests on their way -/

/-- Whoever waits for the endpoint has just sent the request. -/
def Faithful (m : Machine) : Prop :=
  ∀ t q k, m.activity? t = some (.calling q k) → lastEvent? t m.log = some (.sent t false q)

theorem faithful_start (settings : Tracker.Settings) (capacities : List Nat) (tables : Nat) :
    (start settings capacities tables).Faithful := by
  intro t q k h
  cases h

namespace Faithful

variable {m : Machine} {a : Action}

/-- A task that goes on waiting for the endpoint is not what happens. -/
theorem lastEvent?_act_of_calling {t : TaskId} {q : Request} {k : Outcome → Program}
    (hold : m.activity? t = some (.calling q k))
    (hnew : (m.act a).activity? t = some (.calling q k)) :
    lastEvent? t (m.act a).log = lastEvent? t m.log := by
  refine lastEvent?_act fun e he htask => ?_
  rcases (emits_of_mem_events he).eq_of_task htask with rfl | ⟨r, rfl⟩
  · simp [events, hold] at he
  · have hgoes : (m.act (.answer t r)).activity? t = some (.running (k r)) := by
      simp only [act, hold]
      exact activity?_setActivity_self (m := m.record _) hold
    rw [hnew] at hgoes
    cases hgoes

theorem act (hm : m.Faithful) (a : Action) : (m.act a).Faithful := by
  intro t q k hnew
  rcases activity?_act_cases hnew with ⟨old, hold, hmoves⟩ | ⟨rfl, role, hs⟩
  · generalize hcalling : Activity.calling q k = new at hmoves
    cases hmoves with
    | stay =>
      subst hcalling
      rw [lastEvent?_act_of_calling hold hnew]
      exact hm t q k hold
    | own hadv =>
      cases hadv with
      | send =>
        cases hcalling
        have hevents : m.events (.step t) = [.sent t false q] := by
          simp [events, hold, commandEvents]
        simp [(effect_act m _).log, hevents, lastEvent?, Event.task?]
      | _ => cases hcalling
    | stopped =>
      have hcall : old = .calling q k := by
        cases old <;> first | exact hcalling.symm | cases hcalling
      subst hcall
      rw [lastEvent?_act_of_calling hold hnew]
      exact hm t q k hold
    | _ => cases hcalling
  · cases spawns_of_spawned? hs

/-- The answer that comes to a task is the answer to its request. -/
theorem exchanged (hm : m.Faithful) {t : TaskId} {q : Request} {k : Outcome → Program}
    (h : m.activity? t = some (.calling q k)) (r : Outcome) :
    (m.act (.answer t r)).Exchanged q r := by
  refine ⟨t, [], m.now, m.log, ?_, hm t q k h⟩
  simp [(effect_act m _).log, events, h]

end Faithful

end EthRpc.Machine
