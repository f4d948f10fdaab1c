-- SUMMARY: The course of a task through its program: what it took up, what it was told and when, and the record it left.
import Mathlib.Data.List.Induction
import EthRpc.Proofs.Machine.History

/-!
# Courses

A task takes up the first command of its program at one moment of a run and is
told the reply at the same moment or at a later one; then it takes up the next.
The course of a task is the list of all that it was told, each with its moments.
A moment is given by the actions that came before it, so that what was the case
then can be asked of the state after these actions. What a run records about a
task is what its course leaves, and what it has under way.
-/

namespace EthRpc.Machine

/-! ## The record of a task -/

/-- What happened to a task, in order. -/
def trace (m : Machine) (t : TaskId) : List Event :=
  (m.log.reverse.map (·.2)).filter (·.task? = some t)

/-- What an action adds to what happened to a task. -/
def traced (m : Machine) (a : Action) (t : TaskId) : List Event :=
  (m.events a).reverse.filter (·.task? = some t)

section Trace

variable {m : Machine} {a : Action} {t : TaskId} {e : Event}

theorem trace_act (m : Machine) (a : Action) (t : TaskId) :
    (m.act a).trace t = m.trace t ++ m.traced a t := by
  simp [trace, traced, (effect_act m a).log, ← List.map_reverse, Function.comp_def]

theorem mem_trace_iff : e ∈ m.trace t ↔ e.task? = some t ∧ ∃ time, (time, e) ∈ m.log := by
  simp [trace, and_comm]

/-- The requests of a task can be read off its record. -/
theorem requests_of_task (m : Machine) (t : TaskId) :
    m.requests.filter (·.1 = t) = (m.trace t).filterMap Event.request? := by
  have hevent : ∀ e : Event, e.request?.filter (·.1 = t) =
      if e.task? = some t then e.request? else none := by
    intro e
    cases e with
    | sent u poll q =>
      cases poll <;> by_cases hu : u = t <;> simp [Event.request?, Event.task?, hu]
    | _ => simp [Event.request?]
  simp only [requests, trace, List.filter_filterMap, List.filterMap_filter, List.filterMap_map,
    Function.comp_def, hevent, decide_eq_true_eq]

theorem traced_eq_nil (h : ∀ e ∈ m.events a, e.task? ≠ some t) : m.traced a t = [] := by
  simpa [traced] using h

theorem traced_of_act_eq (h : m.act a = m) (t : TaskId) : m.traced a t = [] := by
  have htrace := trace_act m a t
  rw [h] at htrace
  simpa using htrace

end Trace

/-! ## Replies -/

/-- What is recorded about a task that gives a command and gets the reply. -/
def Command.leaves (t : TaskId) : (c : Command) → c.Reply → List Event
  | .send q, r => [.sent t false q, .answered t r]
  | .lookup i key, some v => [.recalled t i key v]
  | .keep i key v, _ => [.stored t i key v]
  | _, _ => []

/-- What a task is told. -/
inductive Told where
  /-- The reply to a command, by the client itself or by the endpoint. -/
  | reply (c : Command) (a : c.Reply)
  /-- What a poll brought that the task sent for its question. -/
  | report (q : Query) (poll : Request) (r : Outcome)
  /-- The outcome of a shared run. -/
  | outcome (table : Nat) (key : String) (run : Program) (r : Outcome)

/-- What is recorded about a task until it is told something. -/
def Told.events (t : TaskId) : Told → List Event
  | reply c a => Command.leaves t c a
  | report _ poll r => [.sent t true poll, .answered t r, .polled t (Tracker.polledHead r)]
  | outcome _ _ _ _ => []

/-! ## Dealings -/

/-- A task that took up a question finds, when it has the turn, that it has to poll, and does. -/
structure Polls (m : Machine) (t : TaskId) (b poll now : List Action) (q : Query)
    (k : q.Answer → Program) : Prop where
  taken : b ++ [.step t] <+: poll
  looks : ∃ old, (m.run poll).activity? t = some old ∧ (m.run poll).Looks old (.query q k)
  needs : (m.run poll).needsPoll (.query q k)
  sent : poll ++ [.step t] <+: now

/-- In a run from `m`, a task takes up a program after some actions, and is told something by an
action that comes after these or later, with which it goes on as another program. -/
inductive Deals (m : Machine) (t : TaskId) :
    List Action → List Action → Action → Told → Program → Program → Prop where
  | reply {b : List Action} {c : Command} {k : c.Reply → Program} {a : c.Reply} :
      (m.run b).activity? t = some (.running (.ask c k)) → (m.run b).Replies c a →
      Deals m t b b (.step t) (.reply c a) (.ask c k) (k a)
  | sleep {b : List Action} {d : Duration} {k : Unit → Program} :
      (m.run b).activity? t = some (.running (.ask (.sleep d) k)) →
      Deals m t b b (.step t) (.reply (.sleep d) ()) (.ask (.sleep d) k) (k ())
  | answer {b b' : List Action} {q : Request} {k : Outcome → Program} {r : Outcome} :
      (m.run b).activity? t = some (.running (.ask (.send q) k)) → b ++ [.step t] <+: b' →
      (m.run b').activity? t = some (.calling q k) →
      Deals m t b b' (.answer t r) (.reply (.send q) r) (.ask (.send q) k) (k r)
  | learn {b b' : List Action} {q : Query} {k : q.Answer → Program} {old : Activity}
      {a : q.Answer} :
      (m.run b).activity? t = some (.running (.ask (.query q) k)) → b ++ [.step t] <+: b' →
      (m.run b').activity? t = some old → (m.run b').Looks old (.query q k) →
      (m.run b').tracker.answer? (m.run b').isRunning (m.run b').now q = some a →
      Deals m t b b' (.step t) (.reply (.query q) a) (.ask (.query q) k) (k a)
  | report {b poll b' : List Action} {q : Query} {k : q.Answer → Program} {r : Outcome} :
      (m.run b).activity? t = some (.running (.ask (.query q) k)) → m.Polls t b poll b' q k →
      (m.run b').activity? t = some (.polled r (.query q k)) →
      Deals m t b b' (.step t) (.report q (m.run poll).tracker.pollRequest r) (.ask (.query q) k)
        (k (q.report (Tracker.polledHead r)))
  | join {b b' : List Action} {a : Action} {i : Nat} {key : String} {p : Program}
      {k : Outcome → Program} {e : SharedRun} {r r' : Outcome} :
      (m.run b).activity? t = some (.running (.share i key p k)) → b ++ [.step t] <+: b' →
      (m.run b).sharedRun? i key = some e →
      (m.run b').activity? t = some (.joined e.run k) → (m.run b').EndsRun a e.run r r' →
      Deals m t b b' a (.outcome i key p r) (.share i key p k) (k r)
  | lead {b b' : List Action} {a : Action} {i : Nat} {key : String} {p : Program}
      {k : Outcome → Program} {r r' : Outcome} :
      (m.run b).activity? t = some (.running (.share i key p k)) → b ++ [.step t] <+: b' →
      (m.run b).sharedRun? i key = none →
      (m.run b').activity? t = some (.leading (m.run b).tasks.size k) →
      (m.run b').EndsRun a (m.run b).tasks.size r r' →
      Deals m t b b' a (.outcome i key p r') (.share i key p k) (k r')

/-- From one moment to another, a task is told these things and so comes from one program to
another. -/
inductive Course (m : Machine) (t : TaskId) :
    List Action → Program → List Told → List Action → Program → Prop where
  | refl {now : List Action} {p : Program} : Course m t now p [] now p
  | step {now b b' now' : List Action} {a : Action} {d : Told} {ds : List Told}
      {p p' q : Program} :
      now <+: b → Deals m t b b' a d p p' → Course m t (b' ++ [a]) p' ds now' q →
      Course m t now p (d :: ds) now' q

section Course

variable {m : Machine} {t : TaskId} {now now' b b' : List Action} {a : Action} {d : Told}
  {ds : List Told} {p p' q : Program}

theorem Deals.isPrefix (h : m.Deals t b b' a d p q) : b <+: b' := by
  cases h with
  | reply | sleep => exact List.prefix_refl _
  | answer _ hb | learn _ hb | join _ hb | lead _ hb => exact (List.prefix_append _ _).trans hb
  | report _ hpolls =>
    have hpoll := (List.prefix_append _ _).trans hpolls.taken
    exact hpoll.trans ((List.prefix_append _ _).trans hpolls.sent)

/-- Who shares a run goes on with an outcome of it. -/
theorem Deals.of_share {i : Nat} {key : String} {run : Program} {k : Outcome → Program}
    (h : m.Deals t b b' a d (.share i key run k) p') :
    ∃ r, d = .outcome i key run r ∧ p' = k r := by
  cases h <;> exact ⟨_, rfl, rfl⟩

/-- Who is done is told no more. -/
theorem Course.of_done {r : Outcome} (h : m.Course t now (.done r) ds now' p') :
    ds = [] ∧ p' = .done r := by
  cases h with
  | refl => exact ⟨rfl, rfl⟩
  | step _ hd _ => cases hd

theorem Course.snoc (h : m.Course t now p ds now' p') (hb : now' <+: b)
    (hd : m.Deals t b b' a d p' q) : m.Course t now p (ds ++ [d]) (b' ++ [a]) q := by
  induction h with
  | refl => exact .step hb hd .refl
  | step hb' hd' _ ih => exact .step hb' hd' (ih hb hd)

theorem Course.isPrefix (h : m.Course t now p ds now' p') : now <+: now' := by
  induction h with
  | refl => exact List.prefix_refl _
  | step hb hd _ ih =>
    exact (hb.trans hd.isPrefix).trans ((List.prefix_append _ _).trans ih)

/-- A task sends a request after some actions, and is answered by the next one after some more. -/
def Calls (m : Machine) (t : TaskId) (b b' : List Action) (q : Request) (r : Outcome) : Prop :=
  ∃ p p', m.Deals t b b' (.answer t r) (.reply (.send q) r) p p'

theorem Deals.calls {q : Request} {r : Outcome} (h : m.Deals t b b' a (.reply (.send q) r) p p') :
    a = .answer t r ∧ m.Calls t b b' q r := by
  cases h with
  | reply _ hr => cases hr
  | answer hold hb hcalling => exact ⟨rfl, _, _, .answer hold hb hcalling⟩

theorem Calls.isPrefix {q : Request} {r : Outcome} (h : m.Calls t b b' q r) : b <+: b' := by
  obtain ⟨p, p', hd⟩ := h
  exact hd.isPrefix

end Course

/-! ## Where a task stands -/

/-- A task has taken up a program between two moments. -/
def Takes (m : Machine) (t : TaskId) (now b actions : List Action) (p : Program) : Prop :=
  now <+: b ∧ b ++ [.step t] <+: actions ∧ (m.run b).activity? t = some (.running p)

/-- A task wants an answer for which it has not polled. -/
inductive Activity.Wants (s : Seeker) : Activity → Prop where
  | seeking : Wants s (.seeking s)
  | queued : Wants s (.queued s)
  | admitted : Wants s (.admitted s)

/-- What a task does who has come to a program, and what is recorded about it since then. -/
inductive Stands (m : Machine) (t : TaskId) (now actions : List Action) :
    Activity → Program → List Event → Prop where
  | running {p : Program} : Stands m t now actions (.running p) p []
  | sleeping {d : Duration} {p : Program} : Stands m t now actions (.sleeping d p) p []
  | calling {b : List Action} {q : Request} {k : Outcome → Program} :
      m.Takes t now b actions (.ask (.send q) k) →
      Stands m t now actions (.calling q k) (.ask (.send q) k) [.sent t false q]
  | wanting {b : List Action} {old : Activity} {q : Query} {k : q.Answer → Program} :
      m.Takes t now b actions (.ask (.query q) k) → old.Wants (.query q k) →
      Stands m t now actions old (.ask (.query q) k) []
  | polling {b poll : List Action} {q : Query} {k : q.Answer → Program} :
      m.Takes t now b actions (.ask (.query q) k) → m.Polls t b poll actions q k →
      Stands m t now actions (.polling (m.run poll).tracker.pollRequest (.query q k))
        (.ask (.query q) k) [.sent t true (m.run poll).tracker.pollRequest]
  | polled {b poll : List Action} {q : Query} {k : q.Answer → Program} {r : Outcome} :
      m.Takes t now b actions (.ask (.query q) k) → m.Polls t b poll actions q k →
      Stands m t now actions (.polled r (.query q k)) (.ask (.query q) k)
        [.sent t true (m.run poll).tracker.pollRequest, .answered t r]
  | joined {b : List Action} {i : Nat} {key : String} {p : Program} {k : Outcome → Program}
      {e : SharedRun} :
      m.Takes t now b actions (.share i key p k) → (m.run b).sharedRun? i key = some e →
      Stands m t now actions (.joined e.run k) (.share i key p k) []
  | leading {b : List Action} {i : Nat} {key : String} {p : Program} {k : Outcome → Program} :
      m.Takes t now b actions (.share i key p k) → (m.run b).sharedRun? i key = none →
      Stands m t now actions (.leading (m.run b).tasks.size k) (.share i key p k) []
  | finished {r : Outcome} : Stands m t now actions (.finished r) (.done r) [.finished t r]
  | crashed {old : Activity} {p : Program} {under : List Event} :
      Stands m t now actions old p under → Stands m t now actions .crashed p under
  | cancelled {old : Activity} {p : Program} {under : List Event} :
      Stands m t now actions old p under → Stands m t now actions .cancelled p under

/-- What may be recorded of a task since it has come to a program. -/
inductive Underway (t : TaskId) : Program → List Event → Prop where
  | quiet {p : Program} : Underway t p []
  | calling {q : Request} {k : Outcome → Program} :
      Underway t (.ask (.send q) k) [.sent t false q]
  | polling {q : Query} {k : q.Answer → Program} {poll : Request} :
      Underway t (.ask (.query q) k) [.sent t true poll]
  | polled {q : Query} {k : q.Answer → Program} {poll : Request} {r : Outcome} :
      Underway t (.ask (.query q) k) [.sent t true poll, .answered t r]
  | finished {r : Outcome} : Underway t (.done r) [.finished t r]

section Stands

variable {m : Machine} {t : TaskId} {now b poll actions : List Action} {a : Action}
  {old new : Activity} {p : Program} {under : List Event}

theorem Takes.later (h : m.Takes t now b actions p) (a : Action) :
    m.Takes t now b (actions ++ [a]) p :=
  ⟨h.1, h.2.1.trans (List.prefix_append _ _), h.2.2⟩

theorem Polls.later {q : Query} {k : q.Answer → Program} (h : m.Polls t b poll actions q k)
    (a : Action) : m.Polls t b poll (actions ++ [a]) q k :=
  ⟨h.taken, h.looks, h.needs, h.sent.trans (List.prefix_append _ _)⟩

theorem takes_now (hnow : now <+: actions)
    (hold : (m.run actions).activity? t = some (.running p)) :
    m.Takes t now actions (actions ++ [.step t]) p :=
  ⟨hnow, List.prefix_refl _, hold⟩

theorem Stands.later (h : m.Stands t now actions old p under) (a : Action) :
    m.Stands t now (actions ++ [a]) old p under := by
  induction h with
  | running => exact .running
  | sleeping => exact .sleeping
  | calling ht => exact .calling (ht.later a)
  | wanting ht hw => exact .wanting (ht.later a) hw
  | polling ht hp => exact .polling (ht.later a) (hp.later a)
  | polled ht hp => exact .polled (ht.later a) (hp.later a)
  | joined ht hs => exact .joined (ht.later a) hs
  | leading ht hs => exact .leading (ht.later a) hs
  | finished => exact .finished
  | crashed _ ih => exact .crashed ih
  | cancelled _ ih => exact .cancelled ih

theorem Stands.of_running {q : Program} (h : m.Stands t now actions (.running p) q under) :
    q = p ∧ under = [] := by
  cases h with
  | running => exact ⟨rfl, rfl⟩
  | wanting _ hw => cases hw

theorem Stands.of_finished {r : Outcome} (h : m.Stands t now actions (.finished r) p under) :
    p = .done r ∧ under = [.finished t r] := by
  cases h with
  | finished => exact ⟨rfl, rfl⟩
  | wanting _ hw => cases hw

theorem Stands.underway (h : m.Stands t now actions old p under) : Underway t p under := by
  induction h with
  | calling => exact .calling
  | polling => exact .polling
  | polled => exact .polled
  | finished => exact .finished
  | crashed _ ih | cancelled _ ih => exact ih
  | _ => exact .quiet

/-- A task that has come to a program is never at work as a poll loop. -/
theorem Stands.not_isLoop (h : m.Stands t now actions old p under) : ¬old.isLoop := by
  rintro ⟨b, stopped, hs⟩
  cases h with
  | wanting _ hw => cases hw <;> cases hs
  | _ => cases hs

theorem Stands.ne_pausing (h : m.Stands t now actions old p under) (d : Duration) (s : Seeker) :
    old ≠ .pausing d s := by
  rintro rfl
  cases h with
  | wanting _ hw => cases hw

/-- Being told to stop is for poll loops only. -/
theorem Stands.stop_eq (h : m.Stands t now actions old p under) : old.stop = old := by
  cases h with
  | wanting _ hw => cases hw <;> rfl
  | _ => rfl

/-! ## One step -/

/-- By an action, a task goes on waiting for its reply, or gets it and comes to another program. -/
def GoesOn (m : Machine) (t : TaskId) (now actions : List Action) (a : Action) (p : Program)
    (under : List Event) (new : Activity) : Prop :=
  m.Stands t now (actions ++ [a]) new p (under ++ (m.run actions).traced a t) ∨
    ∃ b d p', now <+: b ∧ m.Deals t b actions a d p p' ∧
      d.events t = under ++ (m.run actions).traced a t ∧
      m.Stands t (actions ++ [a]) (actions ++ [a]) new p' []

/-- What is recorded when a command gets its reply at once. -/
theorem traced_of_replies {m : Machine} {c : Command} {k : c.Reply → Program} {r : c.Reply}
    (hold : m.activity? t = some (.running (.ask c k))) (hr : m.Replies c r) :
    m.traced (.step t) t = Command.leaves t c r := by
  cases hr with
  | hit h => simp [traced, events, hold, commandEvents, h, Command.leaves, Event.task?]
  | miss h => simp [traced, events, hold, commandEvents, h, Command.leaves]
  | kept => simp [traced, events, hold, commandEvents, Command.leaves, Event.task?]
  | _ => simp [traced, events, hold, commandEvents, Command.leaves, Event.task?]

/-- To look at the head is recorded only if a poll is sent. -/
theorem events_of_looks {m : Machine} {s : Seeker} (hold : m.activity? t = some old)
    (hl : m.Looks old s) : m.events (.step t) = m.pollEvents t s := by
  cases hl with
  | seeking hfree => simp [events, hold, hfree]
  | admitted => simp [events, hold]

theorem traced_of_looks {m : Machine} {s : Seeker} (hold : m.activity? t = some old)
    (hl : m.Looks old s) :
    m.traced (.step t) t = if m.needsPoll s then [.sent t true m.tracker.pollRequest] else [] := by
  rw [traced, events_of_looks hold hl, pollEvents]
  split <;> simp [Event.task?]

theorem Looks.wants {m : Machine} {s s' : Seeker} (hl : m.Looks old s) (hw : old.Wants s') :
    s' = s := by
  cases hl <;> cases hw <;> rfl

theorem Stands.advances (h : m.Stands t now actions old p under) (hnow : now <+: actions)
    (hold : (m.run actions).activity? t = some old) (hadv : (m.run actions).Advances old new) :
    m.GoesOn t now actions (.step t) p under new := by
  cases hadv with
  | finish =>
    obtain ⟨rfl, rfl⟩ := h.of_running
    refine .inl ?_
    simpa [traced, events, hold, Event.task?] using Stands.finished
  | reply hr =>
    obtain ⟨rfl, rfl⟩ := h.of_running
    exact .inr ⟨_, _, _, hnow, .reply hold hr, (traced_of_replies hold hr).symm, .running⟩
  | send =>
    obtain ⟨rfl, rfl⟩ := h.of_running
    refine .inl ?_
    simpa [traced, events, hold, commandEvents, Event.task?] using
      Stands.calling (takes_now hnow hold)
  | sleep =>
    obtain ⟨rfl, rfl⟩ := h.of_running
    refine .inr ⟨_, _, _, hnow, .sleep hold, ?_, .sleeping⟩
    simp [traced, events, hold, commandEvents, Told.events, Command.leaves]
  | inquire =>
    obtain ⟨rfl, rfl⟩ := h.of_running
    refine .inl ?_
    simpa [traced, events, hold, commandEvents] using
      Stands.wanting (takes_now hnow hold) .seeking
  | join hs =>
    obtain ⟨rfl, rfl⟩ := h.of_running
    refine .inl ?_
    simpa [traced, events, hold] using Stands.joined (takes_now hnow hold) hs
  | lead hs =>
    obtain ⟨rfl, rfl⟩ := h.of_running
    refine .inl ?_
    simpa [traced, events, hold] using Stands.leading (takes_now hnow hold) hs
  | wait hturn =>
    cases h with
    | wanting ht hw =>
      cases hw
      refine .inl ?_
      simpa [traced, events, hold, hturn] using Stands.wanting (ht.later (.step t)) .queued
  | learn hl ha =>
    cases h with
    | wanting ht hw =>
      cases hl.wants hw
      refine .inr ⟨_, _, _, ht.1, .learn ht.2.2 ht.2.1 hold hl ha, ?_, .running⟩
      rw [traced_of_looks hold hl]
      simp [needsPoll, ha, Told.events, Command.leaves]
    | _ => cases hl
  | poll hl hneeds =>
    cases h with
    | wanting ht hw =>
      cases hl.wants hw
      refine .inl ?_
      rw [traced_of_looks hold hl, if_pos hneeds]
      exact .polling (ht.later _) ⟨ht.2.1, ⟨_, hold, hl⟩, hneeds, List.prefix_refl _⟩
    | _ => cases hl
  | give hl =>
    cases h with
    | wanting _ hw => cases hl.wants hw
    | _ => cases hl
  | digest =>
    cases h with
    | wanting _ hw => cases hw
    | polled ht hp =>
      refine .inr ⟨_, _, _, ht.1, .report ht.2.2 hp hold, ?_, .running⟩
      simp [traced, events, hold, timerEvents, Told.events, Event.task?]
  | pause | wake => exact absurd ⟨_, _, rfl⟩ h.not_isLoop

theorem Stands.answered {r : Outcome} {q : Request} {k : Outcome → Program}
    (h : m.Stands t now actions (.calling q k) p under)
    (hold : (m.run actions).activity? t = some (.calling q k)) :
    m.GoesOn t now actions (.answer t r) p under (.running (k r)) := by
  cases h with
  | wanting _ hw => cases hw
  | calling ht =>
    refine .inr ⟨_, _, _, ht.1, .answer ht.2.2 ht.2.1 hold, ?_, .running⟩
    simp [traced, events, hold, Told.events, Command.leaves, Event.task?]

theorem Stands.informed {r : Outcome} {q : Request} {s : Seeker}
    (h : m.Stands t now actions (.polling q s) p under)
    (hold : (m.run actions).activity? t = some (.polling q s)) :
    m.GoesOn t now actions (.answer t r) p under (.polled r s) := by
  cases h with
  | wanting _ hw => cases hw
  | polling ht hp =>
    refine .inl ?_
    simpa [traced, events, hold, Event.task?] using
      Stands.polled (ht.later (.answer t r)) (hp.later (.answer t r))

/-- A task that neither steps nor is answered does not go on by itself. -/
theorem Stands.moves (h : m.Stands t now actions old p under)
    (hold : (m.run actions).activity? t = some old) (hmoves : Moves (m.run actions) a t old new)
    (hstep : a = .step t → old.canRun = false) (hquiet : (m.run actions).traced a t = []) :
    m.GoesOn t now actions a p under new := by
  have hsame : m.Stands t now (actions ++ [a]) new p under →
      m.GoesOn t now actions a p under new := by
    intro hs
    refine .inl ?_
    rwa [hquiet, List.append_nil]
  cases hmoves with
  | stay => exact hsame (h.later a)
  | own hadv =>
    have hrun := hstep rfl
    rw [hadv.canRun] at hrun
    cases hrun
  | answered | informed => simp [traced, events, hold, Event.task?] at hquiet
  | crashed => exact hsame (.crashed (h.later _))
  | awake hd =>
    cases h with
    | sleeping => exact hsame .running
    | wanting _ hw => cases hw
  | again => exact absurd rfl (h.ne_pausing _ _)
  | cancelled => exact hsame (.cancelled (h.later _))
  | admitted =>
    cases h with
    | wanting ht hw =>
      cases hw
      exact hsame (.wanting (ht.later a) .admitted)
  | stopped =>
    rw [h.stop_eq] at hsame ⊢
    exact hsame (h.later _)
  | heard hend =>
    cases h with
    | joined ht hs =>
      refine .inr ⟨_, _, _, ht.1, .join ht.2.2 ht.2.1 hs hold hend, ?_, .running⟩
      rw [hquiet]
      rfl
    | wanting _ hw => cases hw
  | returned hend =>
    cases h with
    | leading ht hs =>
      refine .inr ⟨_, _, _, ht.1, .lead ht.2.2 ht.2.1 hs hold hend, ?_, .running⟩
      rw [hquiet]
      rfl
    | wanting _ hw => cases hw

/-- Whatever happens, a task goes on waiting for its reply, or gets it. -/
theorem Stands.act (h : m.Stands t now actions old p under) (hnow : now <+: actions)
    (hold : (m.run actions).activity? t = some old)
    (hnew : ((m.run actions).act a).activity? t = some new) :
    m.GoesOn t now actions a p under new := by
  by_cases hstep : a = .step t ∧ old.canRun
  · obtain ⟨rfl, hrun⟩ := hstep
    exact h.advances hnow hold (advances_of_act hold hrun hnew)
  obtain ⟨new', hnew', hmoves⟩ := movesTo_act (m.run actions) a t old hold
  rw [hnew] at hnew'
  cases hnew'
  -- Besides its own step, only an answer that it waits for leaves anything about a task.
  by_cases hreply : ∃ r, a = .answer t r ∧ (m.run actions).traced a t ≠ []
  · obtain ⟨r, rfl, htraced⟩ := hreply
    cases old with
    | calling q k =>
      have hgoes : ((m.run actions).act (.answer t r)).activity? t = some (.running (k r)) := by
        simp only [Machine.act, hold]
        exact activity?_setActivity_self (m := (m.run actions).record _) hold
      rw [hnew] at hgoes
      cases hgoes
      exact h.answered hold
    | polling q s =>
      have hgoes : ((m.run actions).act (.answer t r)).activity? t = some (.polled r s) := by
        simp only [Machine.act, hold]
        exact activity?_setActivity_self (m := (m.run actions).record _) hold
      rw [hnew] at hgoes
      cases hgoes
      exact h.informed hold
    | _ => simp [traced, events, hold] at htraced
  have hstill : a = .step t → old.canRun = false := by
    rintro rfl
    simpa using hstep
  refine h.moves hold hmoves hstill (traced_eq_nil fun e he htask => ?_)
  rcases (emits_of_mem_events he).eq_of_task htask with rfl | ⟨r, rfl⟩
  · have hsame := (effect_act (m.run actions) (.step t)).log
    rw [act_step_of_not_canRun hold (hstill rfl), List.self_eq_append_left,
      List.map_eq_nil_iff] at hsame
    rw [hsame] at he
    cases he
  · refine hreply ⟨r, rfl, List.ne_nil_of_mem (a := e) ?_⟩
    simpa [traced, htask] using he

end Stands

end EthRpc.Machine
