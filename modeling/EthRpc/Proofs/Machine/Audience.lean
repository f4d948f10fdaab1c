-- SUMMARY: What tasks do takes no time and leaves the subscriptions alone.
import EthRpc.Proofs.Machine.Effect

/-!
# Time and audience

Time passes by an action of its own, and so do subscriptions begin and end. None
of this is touched by what tasks do or by what happens to them.
-/

namespace EthRpc.Machine

/-- The time is the same, and so are the subscriptions and the loop that goes on for them. -/
structure Undisturbed (m m' : Machine) : Prop where
  now : m'.now = m.now
  loop : m'.loop = m.loop
  consumers : m'.consumers = m.consumers
  subscriptions : m'.subscriptions = m.subscriptions

namespace Undisturbed

variable {m m' m'' : Machine}

theorem refl (m : Machine) : Undisturbed m m := ⟨rfl, rfl, rfl, rfl⟩

theorem of_quiet (h : Quiet m m') : Undisturbed m m' :=
  ⟨h.now, h.loop, h.consumers, h.subscriptions⟩

theorem trans (h : Undisturbed m m') (h' : Undisturbed m' m'') : Undisturbed m m'' :=
  ⟨h'.now.trans h.now, h'.loop.trans h.loop, h'.consumers.trans h.consumers,
    h'.subscriptions.trans h.subscriptions⟩

end Undisturbed

/-- The action is a caller's coming, or a step of a task, or something that happens to one. -/
def Action.isOfTask : Action → Bool
  | .launch _ | .step _ | .answer _ _ | .crash _ | .fire _ | .abort _ => true
  | _ => false

variable (m : Machine) (t : TaskId)

/-! ## Steps -/

theorem undisturbed_closeRun (r r' : Outcome) : Undisturbed m (m.closeRun t r r') := by
  have h := quiet_closeRun m t r r'
  exact ⟨h.now, h.loop, h.consumers, h.subscriptions⟩

theorem undisturbed_finish (r : Outcome) : Undisturbed m (m.finish t r) := by
  have hover : Undisturbed m ((m.setActivity t (.finished r)).record (.finished t r)) :=
    ⟨rfl, rfl, rfl, rfl⟩
  exact hover.trans (undisturbed_closeRun _ t r r)

theorem undisturbed_perform (c : Command) (k : c.Reply → Program) :
    Undisturbed m (m.perform t c k) := by
  cases c with
  | query q =>
    simp only [perform, query]
    split <;> exact .of_quiet (quiet_setActivity m t _)
  | lookup i key =>
    simp only [perform]
    split <;> exact ⟨rfl, rfl, rfl, rfl⟩
  | _ => exact ⟨rfl, rfl, rfl, rfl⟩

theorem undisturbed_share (i : Nat) (key : String) (run : Program) (k : Outcome → Program) :
    Undisturbed m (m.share t i key run k) := by
  unfold share
  split <;> exact ⟨rfl, rfl, rfl, rfl⟩

theorem undisturbed_look (s : Seeker) : Undisturbed m (m.look t s) := by
  by_cases h : m.needsPoll s
  · have hsent : Undisturbed m (m.sentPoll t) := ⟨rfl, rfl, rfl, rfl⟩
    exact hsent.trans (.of_quiet (quiet_look_of_needsPoll h))
  · exact .of_quiet (quiet_look_of_not_needsPoll h)

theorem undisturbed_seek (s : Seeker) : Undisturbed m (m.seek t s) := by
  have hturn := Undisturbed.of_quiet (quiet_turn m (m.turn.ask t))
  unfold seek
  dsimp only
  split
  · exact hturn.trans (undisturbed_look _ t s)
  · exact hturn.trans (.of_quiet (quiet_setActivity _ t _))

theorem undisturbed_digest (r : Outcome) (s : Seeker) : Undisturbed m (m.digest t r s) := by
  have hq : Quiet _ (m.endedPoll t (Tracker.polledHead r)) := quiet_passTurn _
  have hended : Undisturbed m (m.endedPoll t (Tracker.polledHead r)) :=
    ⟨hq.now, hq.loop, hq.consumers, hq.subscriptions⟩
  refine hended.trans ?_
  simp only [digest]
  cases s with
  | query q k => exact .of_quiet (quiet_setActivity _ t _)
  | loop b stopped => cases Tracker.polledHead r <;> exact ⟨rfl, rfl, rfl, rfl⟩

theorem undisturbed_advance : Undisturbed m (m.advance t) := by
  unfold advance
  split
  · exact undisturbed_finish m t _
  · exact undisturbed_perform m t _ _
  · exact undisturbed_share m t _ _ _ _
  · exact undisturbed_seek m t _
  · exact undisturbed_look m t _
  · exact undisturbed_digest m t _ _
  · exact .of_quiet (quiet_setActivity m t _)
  · exact .refl m

/-! ## Actions -/

variable {m} {a : Action}

theorem undisturbed_act (h : a.isOfTask) : Undisturbed m (m.act a) := by
  cases a with
  | launch p => exact ⟨rfl, rfl, rfl, rfl⟩
  | step t => exact undisturbed_advance m t
  | answer t r =>
    simp only [act]
    have hrecord : Undisturbed m (m.record (.answered t r)) := ⟨rfl, rfl, rfl, rfl⟩
    split
    · exact hrecord.trans (.of_quiet (quiet_wake _ t _))
    · exact hrecord.trans (.of_quiet (quiet_wake _ t _))
    · exact .refl m
  | crash t =>
    simp only [act]
    split
    · split
      · exact (Undisturbed.of_quiet (quiet_drop m t _)).trans (undisturbed_closeRun _ t _ _)
      · exact .refl m
    · exact .refl m
  | fire t =>
    simp only [act]
    split
    · split
      · exact .of_quiet (quiet_wake m t _)
      · exact .refl m
    · split
      · exact .of_quiet (quiet_wake m t _)
      · exact .refl m
    · exact .refl m
  | abort t =>
    simp only [act]
    split
    · split
      · exact .refl m
      · exact .of_quiet (quiet_drop m t _)
    · exact .refl m
  | _ => cases h

/-! ### Subscriptions -/

/-- A subscription is noted, and the first one brings a loop. -/
theorem subscribe_spec (m : Machine) :
    m.subscribe.consumers = m.consumers + 1 ∧
      m.subscribe.subscriptions = m.subscriptions.push (some (.start m.tracker)) ∧
      m.subscribe.loop = if m.consumers = 0 then some m.tasks.size else m.loop := by
  unfold subscribe
  by_cases h : m.consumers = 0 <;> simp [h, spawn]

/-- The machine once a subscription has ended, before its loop is told to stop if it was the last
one. -/
def released (m : Machine) (i : Nat) : Machine :=
  { m with
    subscriptions := m.subscriptions.modify i fun _ => none
    consumers := m.consumers - 1 }

/-- The end of a subscription is noted, and the end of the last one stops the loop. -/
theorem unsubscribe_cases (m : Machine) (i : Nat) :
    (m.unsubscribe i = m ∧ ∀ s, m.subscriptions[i]? ≠ some (some s)) ∨
      (∃ s, m.subscriptions[i]? = some (some s)) ∧
        (m.consumers - 1 ≠ 0 ∧ m.unsubscribe i = m.released i ∨
          m.consumers - 1 = 0 ∧
            (m.loop = none ∧ m.unsubscribe i = m.released i ∨
              ∃ t, m.loop = some t ∧
                m.unsubscribe i = { (m.released i).stopLoop t with loop := none })) := by
  unfold unsubscribe
  split
  next s hs =>
    refine .inr ⟨⟨s, hs⟩, ?_⟩
    dsimp only
    split
    next hlast =>
      refine .inr ⟨hlast, ?_⟩
      split
      next t ht => exact .inr ⟨t, ht, rfl⟩
      next hnone => exact .inl ⟨hnone, rfl⟩
    next hmore => exact .inl ⟨hmore, rfl⟩
  next hs => exact .inl ⟨rfl, fun s hsome => hs s hsome⟩

/-- A subscriber that reads a change moves on, and nothing else happens. -/
theorem receive_cases (m : Machine) (i : Nat) :
    m.act (.receive i) = m ∨ ∃ s s', m.subscriptions[i]? = some (some s) ∧
      m.act (.receive i) =
        { m with subscriptions := m.subscriptions.modify i fun _ => some s' } := by
  simp only [act, receive]
  split
  next s hs =>
    cases s.next? m.tracker with
    | none => exact .inl rfl
    | some next => exact .inr ⟨s, next.2, hs, rfl⟩
  next => exact .inl rfl

/-- Time does not run backwards. -/
theorem now_le_act (m : Machine) (a : Action) : m.now ≤ (m.act a).now := by
  cases a with
  | pass d => exact Nat.le_add_right m.now d
  | subscribe =>
    simp only [act, subscribe]
    split <;> exact Nat.le_refl _
  | unsubscribe i =>
    simp only [act]
    rcases m.unsubscribe_cases i with ⟨h, -⟩ | ⟨-, ⟨-, h⟩ | ⟨-, ⟨-, h⟩ | ⟨t, -, h⟩⟩⟩
    · exact Nat.le_of_eq (congrArg now h).symm
    · exact Nat.le_of_eq (congrArg now h).symm
    · exact Nat.le_of_eq (congrArg now h).symm
    · rw [h]
      exact Nat.le_of_eq (quiet_stopLoop (m.released i) t).now.symm
  | receive i =>
    rcases m.receive_cases i with h | ⟨s, s', -, h⟩
    · exact Nat.le_of_eq (congrArg now h).symm
    · exact Nat.le_of_eq (congrArg now h).symm
  | _ => exact Nat.le_of_eq (undisturbed_act rfl).now.symm

end EthRpc.Machine
