-- SUMMARY: No two tasks have the turn at once, whatever happens to them.
import EthRpc.Proofs.Machine.Audience
import EthRpc.Proofs.Machine.Tables

/-!
# Turns

A task has the turn from the moment it is let in until its poll has been noted.
Who has it is the holder, so no two tasks have it. The holder may be changed only
with the activity of the one who lets go, which is what has to be shown of each
operation.
-/

namespace EthRpc.Machine

/-- Who has the turn is its holder. -/
def Exclusive (m : Machine) : Prop :=
  ∀ t a, m.activity? t = some a → a.hasTurn → m.turn.holder = some t

/-- No other task has the turn. -/
def Alone (m : Machine) (t : TaskId) : Prop :=
  ∀ u a, u ≠ t → m.activity? u = some a → a.hasTurn = false

theorem exclusive_start (settings : Tracker.Settings) (capacities : List Nat) (tables : Nat) :
    (start settings capacities tables).Exclusive := by
  intro t a h
  cases h

namespace Activity

theorem hasTurn_hear (run : TaskId) (r : Outcome) (a : Activity) :
    (a.hear run r).hasTurn = a.hasTurn := by
  cases a with
  | joined run' k =>
    simp only [hear]
    split <;> rfl
  | _ => rfl

theorem hasTurn_hearAsLeader (run : TaskId) (r : Outcome) (a : Activity) :
    (a.hearAsLeader run r).hasTurn = a.hasTurn := by
  cases a with
  | leading run' k =>
    simp only [hearAsLeader]
    split <;> rfl
  | _ => rfl

theorem hasTurn_stop (a : Activity) : a.stop.hasTurn = a.hasTurn := by
  cases a <;> rfl

end Activity

/-! ## Operations on the turn -/

variable {m n : Machine} {t : TaskId} {a new : Activity}

theorem turn_passTurn (m : Machine) : m.passTurn.turn = m.turn.pass := by
  unfold passTurn
  dsimp only
  split
  · rfl
  · split <;> rfl

theorem turn_deliver (m : Machine) (run : TaskId) (r : Outcome) (t : TaskId) :
    (m.deliver run r t).turn = m.turn := by
  unfold deliver
  split
  · split <;> rfl
  · rfl

theorem turn_deliverAll (m : Machine) (run : TaskId) (r : Outcome) (joiners : List TaskId) :
    (joiners.foldl (fun m j => m.deliver run r j) m).turn = m.turn := by
  induction joiners generalizing m with
  | nil => rfl
  | cons j js ih => exact (ih _).trans (turn_deliver m run r j)

theorem turn_deliverLeader (m : Machine) (run : TaskId) (r : Outcome) (t : TaskId) :
    (m.deliverLeader run r t).turn = m.turn := by
  unfold deliverLeader
  split
  · split <;> rfl
  · rfl

theorem turn_stopLoop (m : Machine) (t : TaskId) : (m.stopLoop t).turn = m.turn := by
  unfold stopLoop
  split <;> rfl

theorem turn_closeRun (m : Machine) (t : TaskId) (r r' : Outcome) :
    (m.closeRun t r r').turn = m.turn := by
  unfold closeRun
  split
  · exact (turn_deliverLeader _ t r' _).trans (turn_deliverAll _ t r _)
  · rfl

namespace Exclusive

/-- Two tasks that have the turn are the same. -/
theorem eq (hm : m.Exclusive) {u : TaskId} {a' : Activity} (h : m.activity? t = some a)
    (ha : a.hasTurn) (h' : m.activity? u = some a') (ha' : a'.hasTurn) : t = u := by
  have ht := hm t a h ha
  rw [hm u a' h' ha'] at ht
  exact (Option.some.inj ht).symm

theorem of_same (hm : m.Exclusive) (htasks : n.tasks = m.tasks) (hturn : n.turn = m.turn) :
    n.Exclusive := by
  intro t a h ha
  rw [hturn]
  refine hm t a ?_ ha
  rwa [activity?, htasks] at h

theorem alone (hm : m.Exclusive) (h : ∀ u, m.turn.holder = some u → u = t) : m.Alone t := by
  intro u a hu hactivity
  cases hturn : a.hasTurn with
  | false => rfl
  | true => exact absurd (h u (hm u a hactivity hturn)) hu

theorem setActivity (hm : m.Exclusive) (hnew : new.hasTurn → m.turn.holder = some t) :
    (m.setActivity t new).Exclusive := by
  intro u a h ha
  rw [activity?_setActivity] at h
  split at h
  next htu =>
    obtain ⟨old, -, rfl⟩ := Option.map_eq_some_iff.1 h
    rw [← htu]
    exact hnew ha
  next => exact hm u a h ha

theorem wake (hm : m.Exclusive) (hnew : new.hasTurn → m.turn.holder = some t) :
    (m.wake t new).Exclusive :=
  (hm.setActivity hnew).of_same rfl rfl

theorem spawn (hm : m.Exclusive) {role : Role} (hnew : new.hasTurn = false) :
    (m.spawn role new).Exclusive := by
  intro u a h ha
  by_cases hu : u = m.tasks.size
  · subst hu
    have hfresh : (m.spawn role new).activity? m.tasks.size = some new := by
      simp [activity?, Machine.spawn]
    rw [hfresh] at h
    cases h
    rw [hnew] at ha
    cases ha
  · have hold : (m.spawn role new).activity? u = m.activity? u := by
      simp [activity?, Machine.spawn, Array.getElem?_push, hu]
    rw [hold] at h
    exact hm u a h ha

/-- The end of a run lets nobody in and nobody go. -/
theorem closeRun (hm : m.Exclusive) (t : TaskId) (r r' : Outcome) :
    (m.closeRun t r r').Exclusive := by
  by_cases hrole : ∃ i key leader, m.role? t = some (.run i key leader)
  · obtain ⟨i, key, leader, hrole⟩ := hrole
    intro u a h ha
    rw [turn_closeRun]
    rw [activity?_closeRun u hrole] at h
    obtain ⟨heard, hheard, rfl⟩ := Option.map_eq_some_iff.1 h
    have hturn : heard.hasTurn := by
      split at ha
      · rwa [Activity.hasTurn_hearAsLeader] at ha
      · exact ha
    split at hheard
    · obtain ⟨old, hold, rfl⟩ := Option.map_eq_some_iff.1 hheard
      rw [Activity.hasTurn_hear] at hturn
      exact hm u old hold hturn
    · exact hm u heard hheard hturn
  · simp only [not_exists] at hrole
    rw [closeRun_of_not_run hrole]
    exact hm

end Exclusive

/-! ### Letting go -/

theorem Alone.setActivity (h : m.Alone t) (new : Activity) : (m.setActivity t new).Alone t := by
  intro u a hu hactivity
  rw [activity?_setActivity_of_ne hu.symm] at hactivity
  exact h u a hu hactivity

/-- When the turn passes from a task, it is with the next holder and with nobody else. -/
theorem Alone.holder_passTurn (h : m.Alone t) {u : TaskId} (hu : u ≠ t)
    (hactivity : m.passTurn.activity? u = some a) (ha : a.hasTurn) :
    m.passTurn.turn.holder = some u := by
  rw [turn_passTurn]
  rw [activity?_passTurn] at hactivity
  split at hactivity
  next hholder => exact hholder
  next =>
    rw [h u a hu hactivity] at ha
    cases ha

/-- A task lets go before the turn passes. -/
theorem Alone.release (h : m.Alone t) (hnew : new.hasTurn = false) (henter : new.enter = new) :
    (m.setActivity t new).passTurn.Exclusive := by
  intro u a hactivity ha
  by_cases hu : u = t
  · subst hu
    rw [activity?_passTurn, activity?_setActivity, if_pos rfl] at hactivity
    have hsame : a = new := by
      split at hactivity
      · obtain ⟨a', ha', rfl⟩ := Option.map_eq_some_iff.1 hactivity
        obtain ⟨old, -, rfl⟩ := Option.map_eq_some_iff.1 ha'
        exact henter
      · obtain ⟨old, -, rfl⟩ := Option.map_eq_some_iff.1 hactivity
        rfl
    rw [hsame, hnew] at ha
    cases ha
  · exact (h.setActivity new).holder_passTurn hu hactivity ha

/-- A task goes on when the turn has passed from it. -/
theorem Alone.goOn (h : m.Alone t) (htasks : n.tasks = m.passTurn.tasks)
    (hturn : n.turn = m.passTurn.turn) (hnew : new.hasTurn = false) :
    (n.setActivity t new).Exclusive := by
  intro u a hactivity ha
  by_cases hu : u = t
  · subst hu
    rw [activity?_setActivity, if_pos rfl] at hactivity
    obtain ⟨old, -, rfl⟩ := Option.map_eq_some_iff.1 hactivity
    rw [hnew] at ha
    cases ha
  · rw [activity?_setActivity_of_ne (Ne.symm hu), activity?, htasks] at hactivity
    exact (congrArg Turn.holder hturn).trans (h.holder_passTurn hu hactivity ha)

/-! ## Steps -/

namespace Exclusive

variable (hm : m.Exclusive)

include hm

theorem finish (t : TaskId) (r : Outcome) : (m.finish t r).Exclusive := by
  refine closeRun ?_ t r r
  have hset : (m.setActivity t (.finished r)).Exclusive := hm.setActivity (by rintro ⟨⟩)
  exact hset.of_same rfl rfl

theorem perform (t : TaskId) (c : Command) (k : c.Reply → Program) :
    (m.perform t c k).Exclusive := by
  have hgoes : ∀ (n : Machine) (p : Program), n.tasks = m.tasks → n.turn = m.turn →
      (n.setActivity t (.running p)).Exclusive := by
    intro n p htasks hturn
    exact (hm.of_same htasks hturn).setActivity (by rintro ⟨⟩)
  cases c with
  | send q =>
    refine setActivity ?_ (by rintro ⟨⟩)
    exact hm.of_same rfl rfl
  | query q =>
    simp only [Machine.perform, query]
    split
    · exact hgoes m _ rfl rfl
    · exact hm.setActivity (by rintro ⟨⟩)
  | sleep d => exact hm.setActivity (by rintro ⟨⟩)
  | lookup i key =>
    simp only [Machine.perform]
    split <;> exact hgoes _ _ rfl rfl
  | currentHead | freshId | keep | count | mark => exact hgoes _ _ rfl rfl

theorem share (t : TaskId) (i : Nat) (key : String) (run : Program) (k : Outcome → Program) :
    (m.share t i key run k).Exclusive := by
  unfold Machine.share
  split
  · refine setActivity ?_ (by rintro ⟨⟩)
    exact hm.of_same rfl rfl
  · refine setActivity ?_ (by rintro ⟨⟩)
    refine spawn ?_ rfl
    exact hm.of_same rfl rfl

theorem look {s : Seeker} (hholder : m.turn.holder = some t) : (m.look t s).Exclusive := by
  have halone : m.Alone t := hm.alone fun u hu => by
    rw [hholder] at hu
    exact (Option.some.inj hu).symm
  have hpoll : (m.sendPoll t s).Exclusive := by
    refine setActivity ?_ fun _ => hholder
    exact hm.of_same rfl rfl
  cases s with
  | query q k =>
    simp only [Machine.look]
    split
    · exact halone.release rfl rfl
    · exact hpoll
  | loop b stopped =>
    simp only [Machine.look]
    split
    · exact halone.release rfl rfl
    · exact hpoll

theorem seek (t : TaskId) (s : Seeker) : (m.seek t s).Exclusive := by
  unfold Machine.seek
  dsimp only
  split
  next hfree =>
    rw [Option.isNone_iff_eq_none] at hfree
    have hasked : (m.turn.ask t).holder = some t := by simp [Turn.ask, hfree]
    refine look ?_ hasked
    intro u a hu ha
    rw [hm u a hu ha] at hfree
    cases hfree
  next hfree =>
    have hasked : (m.turn.ask t).holder = m.turn.holder := by
      cases hholder : m.turn.holder with
      | none => simp [hholder] at hfree
      | some u => simp [Turn.ask, hholder]
    refine setActivity ?_ (by rintro ⟨⟩)
    intro u a hu ha
    exact hasked.trans (hm u a hu ha)

theorem digest {r : Outcome} {s : Seeker} (h : m.activity? t = some (.polled r s)) :
    (m.digest t r s).Exclusive := by
  have hholder := hm t _ h rfl
  have halone : m.Alone t := hm.alone fun u hu => by
    rw [hholder] at hu
    exact (Option.some.inj hu).symm
  have hended : ∀ head, ({ m with tracker := m.tracker.digest m.now head }.record
      (.polled t head)).Alone t := fun _ => halone
  simp only [Machine.digest]
  cases s with
  | query q k => exact (hended _).goOn rfl rfl rfl
  | loop b stopped =>
    cases Tracker.polledHead r with
    | ok head => exact (hended (.ok head)).goOn rfl rfl rfl
    | error e => exact (hended (.error e)).goOn rfl rfl rfl

theorem advance (t : TaskId) : (m.advance t).Exclusive := by
  unfold Machine.advance
  split
  next => exact hm.finish t _
  next => exact hm.perform t _ _
  next => exact hm.share t _ _ _ _
  next => exact hm.seek t _
  next s h => exact hm.look (hm t _ h rfl)
  next r s h => exact hm.digest h
  next => exact hm.setActivity (by rintro ⟨⟩)
  next => exact hm

/-! ## Events from outside -/

/-- Who is taken down lets go of the turn, or leaves the queue. -/
theorem drop (t : TaskId) (hnew : new.hasTurn = false) (henter : new.enter = new) :
    (m.drop t new).Exclusive := by
  unfold Machine.drop
  split
  · exact hm
  next old hold =>
    dsimp only
    split
    next hturn =>
      refine Alone.release (hm.alone fun u hu => ?_) hnew henter
      rw [hm t old hold hturn] at hu
      exact (Option.some.inj hu).symm
    next =>
      have hset : (m.setActivity t new).Exclusive :=
        hm.setActivity fun hturn => by rw [hnew] at hturn; cases hturn
      intro u a hu ha
      exact hset u a hu ha

theorem stopLoop (t : TaskId) : (m.stopLoop t).Exclusive := by
  intro u a hu ha
  rw [turn_stopLoop]
  rw [activity?_stopLoop] at hu
  split at hu
  · obtain ⟨old, hold, rfl⟩ := Option.map_eq_some_iff.1 hu
    rw [Activity.hasTurn_stop] at ha
    exact hm u old hold ha
  · exact hm u a hu ha

theorem act (a : Action) : (m.act a).Exclusive := by
  cases a with
  | launch p => exact hm.spawn rfl
  | step t => exact hm.advance t
  | answer t r =>
    simp only [Machine.act]
    have hrecord : (m.record (.answered t r)).Exclusive := hm.of_same rfl rfl
    split
    next => exact hrecord.wake (by rintro ⟨⟩)
    next h => exact hrecord.wake fun _ => hm t _ h rfl
    next => exact hm
  | crash t =>
    simp only [Machine.act]
    split
    next =>
      split
      next => exact (hm.drop t rfl rfl).closeRun t _ _
      next => exact hm
    next => exact hm
  | fire t =>
    simp only [Machine.act]
    split
    next =>
      split
      next => exact hm.wake (by rintro ⟨⟩)
      next => exact hm
    next =>
      split
      next => exact hm.wake (by rintro ⟨⟩)
      next => exact hm
    next => exact hm
  | abort t =>
    simp only [Machine.act]
    split
    next =>
      split
      next => exact hm
      next => exact hm.drop t rfl rfl
    next => exact hm
  | subscribe =>
    simp only [Machine.act, subscribe]
    split
    next =>
      refine of_same (spawn (m := { m with consumers := m.consumers + 1 }) ?_ rfl) rfl rfl
      exact hm.of_same rfl rfl
    next => exact hm.of_same rfl rfl
  | unsubscribe i =>
    have hreleased : (m.released i).Exclusive := hm.of_same rfl rfl
    simp only [Machine.act]
    rcases m.unsubscribe_cases i with ⟨h, -⟩ | ⟨-, ⟨-, h⟩ | ⟨-, ⟨-, h⟩ | ⟨t, -, h⟩⟩⟩
    · rw [h]
      exact hm
    · rw [h]
      exact hreleased
    · rw [h]
      exact hreleased
    · rw [h]
      exact (hreleased.stopLoop t).of_same rfl rfl
  | receive i =>
    rcases m.receive_cases i with h | ⟨s, s', -, h⟩
    · rw [h]
      exact hm
    · rw [h]
      exact hm.of_same rfl rfl
  | pass d => exact hm.of_same rfl rfl

theorem run (actions : List Action) : (m.run actions).Exclusive := by
  induction actions generalizing m with
  | nil => exact hm
  | cons a rest ih => exact ih (hm.act a)

end Exclusive

end EthRpc.Machine
