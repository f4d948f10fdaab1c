-- SUMMARY: What the operations on tasks do to each task, and that they leave everything else alone.
import Mathlib.Tactic.Common
import EthRpc.Machine.Step

/-!
# Operations on tasks

Waking a task, passing the turn, delivering an outcome and stopping a loop only
change what tasks do and who may poll. Each is described by what it makes of the
activity of any one task; that nothing else moves is said once, as `Quiet`.
-/

namespace EthRpc.Machine

/-- What a task was created for. -/
def role? (m : Machine) (t : TaskId) : Option Role := m.tasks[t]?.map (·.role)

/-! ## Runs -/

@[simp] theorem run_nil (m : Machine) : m.run [] = m := rfl

@[simp] theorem run_cons (m : Machine) (a : Action) (rest : List Action) :
    m.run (a :: rest) = (m.act a).run rest := rfl

theorem run_append (m : Machine) (as bs : List Action) :
    m.run (as ++ bs) = (m.run as).run bs := List.foldl_append ..

theorem run_concat (m : Machine) (actions : List Action) (a : Action) :
    m.run (actions ++ [a]) = (m.run actions).act a := run_append m actions [a]

/-! ## Quiet changes -/

/-- Only activities, the ready list and the turn may differ. -/
structure Quiet (m m' : Machine) : Prop where
  now : m'.now = m.now
  size : m'.tasks.size = m.tasks.size
  role : ∀ t, m'.role? t = m.role? t
  tracker : m'.tracker = m.tracker
  loop : m'.loop = m.loop
  consumers : m'.consumers = m.consumers
  subscriptions : m'.subscriptions = m.subscriptions
  caches : m'.caches = m.caches
  tables : m'.tables = m.tables
  nextId : m'.nextId = m.nextId
  tally : m'.tally = m.tally
  log : m'.log = m.log

namespace Quiet

variable {m m' m'' : Machine}

theorem refl (m : Machine) : Quiet m m := by constructor <;> intros <;> rfl

theorem trans (h : Quiet m m') (h' : Quiet m' m'') : Quiet m m'' where
  now := h'.now.trans h.now
  size := h'.size.trans h.size
  role t := (h'.role t).trans (h.role t)
  tracker := h'.tracker.trans h.tracker
  loop := h'.loop.trans h.loop
  consumers := h'.consumers.trans h.consumers
  subscriptions := h'.subscriptions.trans h.subscriptions
  caches := h'.caches.trans h.caches
  tables := h'.tables.trans h.tables
  nextId := h'.nextId.trans h.nextId
  tally := h'.tally.trans h.tally
  log := h'.log.trans h.log

end Quiet

variable (m : Machine)

@[simp] theorem role?_setActivity (t : TaskId) (a : Activity) (u : TaskId) :
    (m.setActivity t a).role? u = m.role? u := by
  simp only [role?, setActivity, Array.getElem?_modify]
  split <;> simp [Function.comp_def]

theorem quiet_setActivity (t : TaskId) (a : Activity) : Quiet m (m.setActivity t a) := by
  constructor
  case role => exact role?_setActivity m t a
  case size => simp [setActivity]
  all_goals rfl

theorem quiet_wake (t : TaskId) (a : Activity) : Quiet m (m.wake t a) := by
  have h := quiet_setActivity m t a
  exact ⟨h.now, h.size, h.role, h.tracker, h.loop, h.consumers, h.subscriptions, h.caches,
    h.tables, h.nextId, h.tally, h.log⟩

theorem quiet_turn (turn : Turn) : Quiet m { m with turn := turn } := by
  constructor <;> intros <;> rfl

theorem quiet_passTurn : Quiet m m.passTurn := by
  have h := quiet_turn m m.turn.pass
  unfold passTurn
  dsimp only
  split
  · exact h
  · split
    · exact h.trans (quiet_wake _ _ _)
    · exact h

theorem quiet_deliver (run : TaskId) (r : Outcome) (t : TaskId) : Quiet m (m.deliver run r t) := by
  unfold deliver
  split
  · split
    · exact quiet_wake _ _ _
    · exact .refl m
  · exact .refl m

theorem quiet_deliverLeader (run : TaskId) (r : Outcome) (t : TaskId) :
    Quiet m (m.deliverLeader run r t) := by
  unfold deliverLeader
  split
  · split
    · exact quiet_wake _ _ _
    · exact .refl m
  · exact .refl m

theorem quiet_deliverAll (run : TaskId) (r : Outcome) (joiners : List TaskId) :
    Quiet m (joiners.foldl (fun m j => m.deliver run r j) m) := by
  induction joiners generalizing m with
  | nil => exact .refl m
  | cons j js ih => exact (quiet_deliver m run r j).trans (ih _)

theorem quiet_drop (t : TaskId) (a : Activity) : Quiet m (m.drop t a) := by
  unfold drop
  split
  · exact .refl m
  · have h := quiet_setActivity m t a
    dsimp only
    split
    · exact h.trans (quiet_passTurn _)
    · exact h.trans (quiet_turn _ _)

theorem quiet_stopLoop (t : TaskId) : Quiet m (m.stopLoop t) := by
  unfold stopLoop
  split
  all_goals first
    | exact quiet_setActivity _ _ _
    | exact quiet_wake _ _ _
    | exact .refl m

/-! ## What becomes of an activity -/

namespace Activity

/-- Whoever waits for the turn gets it. -/
def enter : Activity → Activity
  | queued s => admitted s
  | a => a

/-- Whoever joined a run hears its outcome. -/
def hear (run : TaskId) (r : Outcome) : Activity → Activity
  | joined run' k => if run' = run then running (k r) else joined run' k
  | a => a

/-- Whoever leads a run hears its outcome. -/
def hearAsLeader (run : TaskId) (r : Outcome) : Activity → Activity
  | leading run' k => if run' = run then running (k r) else leading run' k
  | a => a

/-- A poll loop is told to stop. -/
def stop : Activity → Activity
  | seeking s => seeking s.stop
  | queued s => queued s.stop
  | admitted s => admitted s.stop
  | polling q s => polling q s.stop
  | polled r s => polled r s.stop
  | pausing d s => pausing d s.stop
  | a => a

theorem hear_hear (run : TaskId) (r : Outcome) (a : Activity) :
    (a.hear run r).hear run r = a.hear run r := by
  cases a with
  | joined run' k => by_cases h : run' = run <;> simp [hear, h]
  | _ => rfl

end Activity

variable (t u : TaskId)

theorem activity?_setActivity (a : Activity) :
    (m.setActivity t a).activity? u = if t = u then (m.activity? u).map fun _ => a
      else m.activity? u := by
  simp only [activity?, setActivity, Array.getElem?_modify]
  split <;> simp [Function.comp_def]

@[simp] theorem activity?_turn (turn : Turn) :
    ({ m with turn := turn } : Machine).activity? u = m.activity? u := rfl

@[simp] theorem activity?_setTable (i : Nat) (es : List SharedRun) :
    (m.setTable i es).activity? u = m.activity? u := rfl

variable {m t u}

theorem activity?_setActivity_self {a old : Activity} (h : m.activity? t = some old) :
    (m.setActivity t a).activity? t = some a := by
  simp [activity?_setActivity, h]

theorem activity?_setActivity_of_ne {a : Activity} (h : t ≠ u) :
    (m.setActivity t a).activity? u = m.activity? u := by
  simp [activity?_setActivity, h]

/-- Setting the activity of a task by what it was is the same for all tasks. -/
theorem activity?_setActivity_eq_map {f : Activity → Activity} {old new : Activity}
    (h : m.activity? t = some old) (hf : f old = new) :
    (m.setActivity t new).activity? u = if t = u then (m.activity? u).map f
      else m.activity? u := by
  rw [activity?_setActivity]
  split
  next e => subst e; simp [h, hf]
  next => rfl

theorem map_activity?_eq_self {f : Activity → Activity}
    (h : ∀ old, m.activity? t = some old → f old = old) :
    (if t = u then (m.activity? u).map f else m.activity? u) = m.activity? u := by
  split
  next e =>
    subst e
    cases ha : m.activity? t with
    | none => rfl
    | some old => simp [h old ha]
  next => rfl

variable (m t u)

theorem activity?_passTurn :
    m.passTurn.activity? u = if m.turn.pass.holder = some u then (m.activity? u).map .enter
      else m.activity? u := by
  unfold passTurn
  dsimp only
  split
  next h => simp [h]
  next t h =>
    simp only [h, Option.some.injEq]
    split
    next s hs =>
      rw [activity?_turn] at hs
      exact activity?_setActivity_eq_map (m := { m with turn := m.turn.pass }) hs rfl
    next hs =>
      refine (map_activity?_eq_self fun old ho => ?_).symm
      cases old <;> first | rfl | exact absurd ho (hs _)

theorem activity?_deliver (run : TaskId) (r : Outcome) :
    (m.deliver run r t).activity? u = if t = u then (m.activity? u).map (.hear run r)
      else m.activity? u := by
  unfold deliver
  split
  next run' k hk =>
    split
    next h =>
      subst h
      exact activity?_setActivity_eq_map hk (by simp [Activity.hear])
    next h =>
      refine (map_activity?_eq_self fun old ho => ?_).symm
      rw [hk] at ho
      cases ho
      simp [Activity.hear, h]
  next hs =>
    refine (map_activity?_eq_self fun old ho => ?_).symm
    cases old <;> first | rfl | exact absurd ho (hs _ _)

theorem activity?_deliverLeader (run : TaskId) (r : Outcome) :
    (m.deliverLeader run r t).activity? u = if t = u then (m.activity? u).map (.hearAsLeader run r)
      else m.activity? u := by
  unfold deliverLeader
  split
  next run' k hk =>
    split
    next h =>
      subst h
      exact activity?_setActivity_eq_map hk (by simp [Activity.hearAsLeader])
    next h =>
      refine (map_activity?_eq_self fun old ho => ?_).symm
      rw [hk] at ho
      cases ho
      simp [Activity.hearAsLeader, h]
  next hs =>
    refine (map_activity?_eq_self fun old ho => ?_).symm
    cases old <;> first | rfl | exact absurd ho (hs _ _)

theorem activity?_deliverAll (run : TaskId) (r : Outcome) (joiners : List TaskId) :
    (joiners.foldl (fun m j => m.deliver run r j) m).activity? u =
      if u ∈ joiners then (m.activity? u).map (.hear run r) else m.activity? u := by
  induction joiners generalizing m with
  | nil => simp
  | cons j js ih =>
    rw [List.foldl_cons, ih, activity?_deliver]
    by_cases hj : j = u
    · subst hj
      simp [Function.comp_def, Activity.hear_hear]
    · simp [hj, Ne.symm hj]

theorem activity?_stopLoop :
    (m.stopLoop t).activity? u = if t = u then (m.activity? u).map .stop else m.activity? u := by
  unfold stopLoop
  split
  next hs => exact activity?_setActivity_eq_map hs rfl
  next hs => exact activity?_setActivity_eq_map hs rfl
  next hs => exact activity?_setActivity_eq_map hs rfl
  next hs => exact activity?_setActivity_eq_map hs rfl
  next hs => exact activity?_setActivity_eq_map hs rfl
  next hs => exact activity?_setActivity_eq_map hs rfl
  next h1 h2 h3 h4 h5 h6 =>
    refine (map_activity?_eq_self fun old ho => ?_).symm
    cases old with
    | seeking s => exact absurd ho (h1 s)
    | queued s => exact absurd ho (h2 s)
    | admitted s => exact absurd ho (h3 s)
    | polling q s => exact absurd ho (h4 q s)
    | polled r s => exact absurd ho (h5 r s)
    | pausing d s => exact absurd ho (h6 d s)
    | _ => rfl

/-- A task that ends lets go of the turn, which may let another one in. -/
theorem activity?_drop {a old : Activity} (h : m.activity? t = some old) (ha : a.enter = a) :
    (m.drop t a).activity? u =
      if t = u then some a
      else if old.hasTurn ∧ m.turn.pass.holder = some u then (m.activity? u).map .enter
      else m.activity? u := by
  unfold drop
  rw [h]
  dsimp only
  by_cases hu : t = u
  · subst hu
    have hself := activity?_setActivity_self (a := a) h
    split
    · rw [activity?_passTurn, hself]
      simp [ha]
    · simp [hself]
  · have hne := activity?_setActivity_of_ne (m := m) (a := a) hu
    cases hold : old.hasTurn
    · simp [hu, hne]
    · simp only [reduceIte, activity?_passTurn, hne, hu, true_and]
      rfl

/-! ## The end of a run -/

/-- Who joined the run under a key. -/
def joiners (i : Nat) (key : String) : List TaskId :=
  (((m.table i).find? (·.key = key)).map (·.joiners)).getD []

/-- The tables once a task has taken its run out of its own. -/
def closedTables : Array (List SharedRun) :=
  match m.role? t with
  | some (.run i key _) => m.tables.modify i fun _ => (m.table i).filter (·.key ≠ key)
  | _ => m.tables

variable {m t}

theorem closeRun_of_run {i : Nat} {key : String} {leader : TaskId} {r r' : Outcome}
    (h : m.role? t = some (.run i key leader)) :
    m.closeRun t r r' =
      ((m.joiners i key).foldl (fun m j => m.deliver t r j)
        (m.setTable i ((m.table i).filter (·.key ≠ key)))).deliverLeader t r' leader := by
  obtain ⟨⟨role, a⟩, ht, hr⟩ := Option.map_eq_some_iff.1 h
  simp only at hr
  subst hr
  simp [closeRun, ht, joiners]

theorem closeRun_of_not_run {r r' : Outcome}
    (h : ∀ i key leader, m.role? t ≠ some (.run i key leader)) : m.closeRun t r r' = m := by
  unfold closeRun
  split
  next i key leader a ht => exact absurd (by simp [role?, ht]) (h i key leader)
  next => rfl

variable (m t)

/-- The end of a run changes its table and is quiet otherwise. -/
theorem quiet_closeRun (r r' : Outcome) :
    Quiet { m with tables := m.closedTables t } (m.closeRun t r r') := by
  by_cases h : ∃ i key leader, m.role? t = some (.run i key leader)
  · obtain ⟨i, key, leader, h⟩ := h
    rw [closeRun_of_run h]
    have ht : ({ m with tables := m.closedTables t } : Machine) =
        m.setTable i ((m.table i).filter (·.key ≠ key)) := by
      simp [closedTables, h, setTable]
    rw [ht]
    exact (quiet_deliverAll _ _ _ _).trans (quiet_deliverLeader _ _ _ _)
  · simp only [not_exists] at h
    rw [closeRun_of_not_run h]
    have ht : m.closedTables t = m.tables := by
      unfold closedTables
      split
      next i key leader hr => exact absurd hr (h i key leader)
      next => rfl
    rw [ht]
    exact .refl m

variable {m t}

/-- Whoever waits for a run hears of its end, and nobody else notices. -/
theorem activity?_closeRun {i : Nat} {key : String} {leader : TaskId} {r r' : Outcome}
    (h : m.role? t = some (.run i key leader)) :
    (m.closeRun t r r').activity? u =
      (if u ∈ m.joiners i key then (m.activity? u).map (.hear t r) else m.activity? u).map
        fun a => if leader = u then a.hearAsLeader t r' else a := by
  rw [closeRun_of_run h, activity?_deliverLeader, activity?_deliverAll, activity?_setTable]
  split <;> simp

end EthRpc.Machine
