-- SUMMARY: What a step counts, and that nothing else is counted.
import EthRpc.Proofs.Machine.Effect

/-!
# Tallies

A step counts one thing at most: a lookup whether it found anything, a shared run
whether it was there already, a poll that it is sent, a poll loop that its poll
has failed. Besides that, a program counts what it is told to. What comes from
outside is not counted.
-/

namespace EthRpc.Machine

variable (m : Machine)

/-- What an action counts. -/
def counted? : Action → Option Counter
  | .step t =>
    match m.activity? t with
    | some (.running (.ask (.lookup i key) _)) =>
      match m.caches[i]?.bind (·.get? key) with
      | some _ => some .hits
      | none => some .misses
    | some (.running (.ask (.count c) _)) => some c
    | some (.running (.share i key _ _)) =>
      match m.sharedRun? i key with
      | some _ => some .joined
      | none => some .led
    | some (.seeking s) => if m.turn.holder.isNone ∧ m.needsPoll s then some .polls else none
    | some (.admitted s) => if m.needsPoll s then some .polls else none
    | some (.polled r (.loop _ _)) =>
      match Tracker.polledHead r with
      | .ok _ => none
      | .error _ => some .pollFailures
    | _ => none
  | _ => none

/-- The tally after something was counted, or nothing. -/
def tallyAfter : Option Counter → Tally
  | some c => m.tally.bump c
  | none => m.tally

/-! ## Steps of a task -/

variable {m} {t : TaskId}

theorem tally_finish (t : TaskId) (r : Outcome) : (m.finish t r).tally = m.tally :=
  (quiet_closeRun _ t r r).tally

theorem tally_perform {c : Command} {k : c.Reply → Program}
    (h : m.activity? t = some (.running (.ask c k))) :
    (m.perform t c k).tally = m.tallyAfter (m.counted? (.step t)) := by
  cases c with
  | query q =>
    simp only [perform, query, counted?, h]
    split <;> rfl
  | lookup i key =>
    simp only [perform]
    split
    next hfound =>
      simp only [counted?, h, hfound]
      rfl
    next hfound =>
      simp only [counted?, h, hfound]
      rfl
  | _ =>
    simp only [counted?, h]
    rfl

theorem tally_share {i : Nat} {key : String} {run : Program} {k : Outcome → Program}
    (h : m.activity? t = some (.running (.share i key run k))) :
    (m.share t i key run k).tally = m.tallyAfter (m.counted? (.step t)) := by
  unfold share
  split
  next e he =>
    have hfound : m.sharedRun? i key = some e := he
    simp only [counted?, h, hfound]
    rfl
  next he =>
    have hnone : m.sharedRun? i key = none := he
    simp only [counted?, h, hnone]
    rfl

theorem tally_look (t : TaskId) (s : Seeker) :
    (m.look t s).tally = m.tallyAfter (if m.needsPoll s then some .polls else none) := by
  split
  next hneeds => exact (quiet_look_of_needsPoll hneeds).tally
  next hneeds => exact (quiet_look_of_not_needsPoll hneeds).tally

theorem tally_seek (t : TaskId) (s : Seeker) :
    (m.seek t s).tally =
      m.tallyAfter (if m.turn.holder.isNone ∧ m.needsPoll s then some .polls else none) := by
  have hneeds : ({ m with turn := m.turn.ask t } : Machine).needsPoll s = m.needsPoll s := by
    cases s <;> rfl
  unfold seek
  dsimp only
  by_cases hfree : m.turn.holder.isNone
  · rw [if_pos hfree, tally_look, hneeds]
    simp only [hfree, true_and]
    rfl
  · simp only [hfree]
    rfl

theorem tally_digest {r : Outcome} {s : Seeker} (h : m.activity? t = some (.polled r s)) :
    (m.digest t r s).tally = m.tallyAfter (m.counted? (.step t)) := by
  have hended : (m.endedPoll t (Tracker.polledHead r)).tally = m.tally := (quiet_passTurn _).tally
  cases s with
  | query q k =>
    simp only [counted?, h]
    exact hended
  | loop b stopped =>
    simp only [digest, counted?, h]
    cases hhead : Tracker.polledHead r with
    | ok head =>
      rw [hhead] at hended
      exact hended
    | error e =>
      rw [hhead] at hended
      exact congrArg (·.bump .pollFailures) hended

theorem tally_advance (m : Machine) (t : TaskId) :
    (m.advance t).tally = m.tallyAfter (m.counted? (.step t)) := by
  unfold advance
  split
  next r h =>
    simp only [counted?, h]
    exact tally_finish t r
  next c k h => exact tally_perform h
  next i key run k h => exact tally_share h
  next s h =>
    simp only [counted?, h]
    exact tally_seek t s
  next s h =>
    simp only [counted?, h]
    exact tally_look t s
  next r s h => exact tally_digest h
  next d b h =>
    simp only [counted?, h]
    rfl
  next h1 h2 h3 h4 h5 h6 h7 =>
    have hnone : m.counted? (.step t) = none := by
      unfold counted?
      grind
    rw [hnone]
    rfl

/-! ## Actions -/

/-- An action changes the tally by what it counts. -/
theorem tally_act (m : Machine) (a : Action) :
    (m.act a).tally = m.tallyAfter (m.counted? a) := by
  cases a with
  | step t => exact tally_advance m t
  | answer t r =>
    simp only [act]
    split <;> rfl
  | crash t =>
    simp only [act]
    split
    next =>
      split
      next => exact ((quiet_closeRun _ t _ _).tally).trans (quiet_drop m t _).tally
      next => rfl
    next => rfl
  | fire t =>
    simp only [act]
    split
    · split <;> rfl
    · split <;> rfl
    · rfl
  | abort t =>
    simp only [act]
    split
    · split
      · rfl
      · exact (quiet_drop m t _).tally
    · rfl
  | subscribe =>
    simp only [act, subscribe]
    split <;> rfl
  | unsubscribe i =>
    simp only [act, unsubscribe]
    split
    · split
      · split
        · exact (quiet_stopLoop _ _).tally
        · rfl
      · rfl
    · rfl
  | receive i =>
    simp only [act, receive]
    split
    next s _ => cases s.next? m.tracker <;> rfl
    next => rfl
  | _ => rfl

end EthRpc.Machine
