-- SUMMARY: What an action makes of the tables of shared runs, and of those who wait for one.
import EthRpc.Proofs.Machine.Moves

/-!
# Tables

A table gets an entry when a task leads a new run, a joiner when one joins, and
loses an entry when the run of that entry ends. The end of a run is the action of
that run alone, and it is told to everybody who is known to wait.
-/

namespace EthRpc.Machine

/-! ## Tasks over a step -/

theorem lt_size_of_activity? {m : Machine} {t : TaskId} {old : Activity}
    (h : m.activity? t = some old) : t < m.tasks.size := by
  by_contra hlt
  simp [activity?, hlt] at h

theorem lt_size_of_role? {m : Machine} {t : TaskId} {role : Role}
    (h : m.role? t = some role) : t < m.tasks.size := by
  by_contra hlt
  simp [role?, hlt] at h

theorem exists_activity? {m : Machine} {t : TaskId} (h : t < m.tasks.size) :
    ∃ old, m.activity? t = some old := by
  simp [activity?, h]

theorem exists_role? {m : Machine} {t : TaskId} {old : Activity}
    (h : m.activity? t = some old) : ∃ role, m.role? t = some role := by
  obtain ⟨task, htask, -⟩ := Option.map_eq_some_iff.1 h
  exact ⟨task.role, by simp [role?, htask]⟩

/-- The ways in which a task is created. -/
inductive Spawns (m : Machine) : Action → Task → Prop where
  | caller {p : Program} : Spawns m (.launch p) ⟨.caller, .running p⟩
  | run {t : TaskId} {i : Nat} {key : String} {run : Program} {k : Outcome → Program} :
      m.activity? t = some (.running (.share i key run k)) → m.sharedRun? i key = none →
      Spawns m (.step t) ⟨.run i key t, .running run⟩
  | loop : Spawns m .subscribe
      ⟨.pollLoop, .seeking (.loop (.start m.tracker.settings.backoff) false)⟩

theorem spawns_of_spawned? {m : Machine} {a : Action} {task : Task}
    (h : m.spawned? a = some task) : m.Spawns a task := by
  unfold spawned? at h
  split at h
  · cases h
    exact .caller
  · split at h
    next hold =>
      split at h
      · cases h
      next hs =>
        cases h
        exact .run hold hs
    · cases h
  · split at h
    · cases h
      exact .loop
    · cases h
  · cases h

/-- A task after an action is an old one after its move, or the one that the action created. -/
theorem activity?_act_cases {m : Machine} {a : Action} {t : TaskId} {new : Activity}
    (h : (m.act a).activity? t = some new) :
    (∃ old, m.activity? t = some old ∧ Moves m a t old new) ∨
      t = m.tasks.size ∧ ∃ role, m.spawned? a = some ⟨role, new⟩ := by
  have heffect := effect_act m a
  by_cases ht : t < m.tasks.size
  · obtain ⟨old, hold⟩ := exists_activity? ht
    obtain ⟨new', hnew', hmoves⟩ := movesTo_act m a t old hold
    rw [h] at hnew'
    cases hnew'
    exact .inl ⟨old, hold, hmoves⟩
  · have hlt := lt_size_of_activity? h
    have hsize := heffect.size
    cases hs : m.spawned? a with
    | none =>
      simp only [hs, Option.toList_none, List.length_nil, Nat.add_zero] at hsize
      exact absurd (hsize ▸ hlt) ht
    | some task =>
      simp only [hs, Option.toList_some, List.length_singleton] at hsize
      obtain rfl : t = m.tasks.size := Nat.eq_of_lt_succ_of_not_lt (hsize ▸ hlt) ht
      have hfresh := heffect.fresh
      rw [hs] at hfresh
      have hactivity : task.activity = new := by simpa [activity?, hfresh] using h
      exact .inr ⟨rfl, task.role, by rw [← hactivity]⟩

theorem role?_act_of_fresh {m : Machine} {a : Action} {task : Task} (h : m.spawned? a = some task) :
    (m.act a).role? m.tasks.size = some task.role := by
  simp [role?, (effect_act m a).fresh, h]

theorem activity?_act_of_fresh {m : Machine} {a : Action} {task : Task}
    (h : m.spawned? a = some task) :
    (m.act a).activity? m.tasks.size = some task.activity := by
  simp [activity?, (effect_act m a).fresh, h]

theorem role?_act {m : Machine} {t : TaskId} {role : Role} (h : m.role? t = some role)
    (a : Action) : (m.act a).role? t = some role := by
  rw [(effect_act m a).role t (lt_size_of_role? h), h]

theorem tables_size_act (m : Machine) (a : Action) : (m.act a).tables.size = m.tables.size := by
  have hclosed : ∀ t, (m.closedTables t).size = m.tables.size := by
    intro t
    unfold closedTables
    split
    · exact Array.size_modify
    · rfl
  rw [(effect_act m a).tables]
  unfold tablesAfter
  cases a with
  | step t =>
    dsimp only
    split
    · exact hclosed t
    · exact Array.size_modify
    · rfl
  | crash t =>
    dsimp only
    split
    · split
      · exact hclosed t
      · rfl
    · rfl
  | _ => rfl

theorem tables_size_run (m : Machine) (actions : List Action) :
    (m.run actions).tables.size = m.tables.size := by
  induction actions generalizing m with
  | nil => rfl
  | cons a rest ih => exact (ih (m.act a)).trans (tables_size_act m a)

/-! ## Loops -/

namespace Activity

/-- The seeker that a task is at work as. -/
def seeker? : Activity → Option Seeker
  | seeking s | queued s | admitted s | polling _ s | polled _ s | pausing _ s => some s
  | _ => none

/-- The task is at work as a poll loop. -/
def isLoop (a : Activity) : Prop := ∃ b stopped, a.seeker? = some (.loop b stopped)

@[simp] theorem isOver_stop (a : Activity) : a.stop.isOver = a.isOver := by
  cases a <;> rfl

theorem isOver_of_canFail {a : Activity} (h : a.canFail) : a.isOver = false := by
  cases a with
  | finished r => cases h
  | crashed => cases h
  | cancelled => cases h
  | _ => rfl

theorem canRun_of_isOver {a : Activity} (h : a.isOver) : a.canRun = false := by
  cases a with
  | finished r => rfl
  | crashed => rfl
  | cancelled => rfl
  | _ => cases h

theorem isLoop_of_stop {a : Activity} (h : a.stop.isLoop) : a.isLoop := by
  obtain ⟨b, stopped, h⟩ := h
  have hs : ∀ s : Seeker, s.stop = .loop b stopped → ∃ b stopped, s = .loop b stopped := by
    intro s hs
    cases s with
    | query q k => cases hs
    | loop b' stopped' => exact ⟨b', stopped', rfl⟩
  cases a with
  | seeking s | queued s | admitted s | polling _ s | polled _ s | pausing _ s =>
    obtain ⟨b', stopped', rfl⟩ := hs s (by simpa [stop, seeker?] using h)
    exact ⟨b', stopped', rfl⟩
  | _ => simp [stop, seeker?] at h

end Activity

/-- No task becomes a poll loop by a move. -/
theorem isLoop_of_moves {m : Machine} {a : Action} {t : TaskId} {old new : Activity}
    (h : Moves m a t old new) (hnew : new.isLoop) : old.isLoop := by
  obtain ⟨b, stopped, hb⟩ := hnew
  cases h with
  | stay => exact ⟨b, stopped, hb⟩
  | own h =>
    cases h with
    | wait _ => exact ⟨b, stopped, hb⟩
    | poll hl _ => cases hl <;> exact ⟨b, stopped, hb⟩
    | pause => exact ⟨_, _, rfl⟩
    | _ => simp [Activity.seeker?] at hb
  | informed | again _ | admitted => exact ⟨b, stopped, hb⟩
  | stopped => exact Activity.isLoop_of_stop ⟨b, stopped, hb⟩
  | _ => simp [Activity.seeker?] at hb

/-! ## The end of a run -/

section Ends

variable {m : Machine} {a : Action} {run : TaskId} {r r' : Outcome}

/-- What ends a run is an action of that run alone. -/
theorem EndsRun.eq {run' : TaskId} {s s' : Outcome} (h : m.EndsRun a run r r')
    (h' : m.EndsRun a run' s s') : run' = run ∧ s = r ∧ s' = r' := by
  cases h with
  | finished h =>
    cases h' with
    | finished h' =>
      rw [h] at h'
      cases h'
      exact ⟨rfl, rfl, rfl⟩
  | crashed h _ =>
    cases h' with
    | crashed h' _ => exact ⟨rfl, rfl, rfl⟩

theorem EndsRun.not_over (h : m.EndsRun a run r r') :
    ∃ old, m.activity? run = some old ∧ old.isOver = false := by
  cases h with
  | finished h => exact ⟨_, h, rfl⟩
  | crashed h hfail => exact ⟨_, h, Activity.isOver_of_canFail hfail⟩

theorem activity?_finish {t : TaskId} (h : m.activity? t = some (.running (.done r))) :
    (m.finish t r).activity? t = some (.finished r) :=
  activity?_closeRun_of_deaf (activity?_setActivity_self h) rfl rfl

/-- A run that ends is finished with its outcome, or it crashed. -/
theorem EndsRun.activity? (h : m.EndsRun a run r r') :
    (m.act a).activity? run = some (.finished r) ∧ r' = r ∨
      (m.act a).activity? run = some .crashed ∧ r = .error abandoned ∧ r' = .error failedRun := by
  cases h with
  | finished h =>
    refine .inl ⟨?_, rfl⟩
    simp only [act, advance, h]
    exact activity?_finish h
  | crashed h hfail =>
    refine .inr ⟨?_, rfl, rfl⟩
    simp only [act, h, hfail, if_true]
    have hdrop := activity?_drop m run run (a := .crashed) h rfl
    rw [if_pos rfl] at hdrop
    exact activity?_closeRun_of_deaf hdrop rfl rfl

/-- Who joined a run, and who leads it, goes on with its outcome when it ends. -/
theorem EndsRun.hears {i : Nat} {key : String} {leader t : TaskId} {old : Activity}
    (h : m.EndsRun a run r r') (hrole : m.role? run = some (.run i key leader)) (ht : t ≠ run)
    (hold : m.activity? t = some old) (hqueued : ∀ s, old ≠ .queued s) :
    (m.act a).activity? t =
      some (let new := if t ∈ m.joiners i key then old.hear run r else old
        if leader = t then new.hearAsLeader run r' else new) := by
  cases h with
  | finished h =>
    have hquiet := quiet_setActivity m run (.finished r)
    have hjoiners : ((m.setActivity run (.finished r)).record (.finished run r)).joiners i key =
        m.joiners i key := rfl
    simp only [act, advance, h, finish]
    have hn : ((m.setActivity run (.finished r)).record (.finished run r)).activity? t =
        some old := (activity?_setActivity_of_ne ht.symm).trans hold
    have hrole' : ((m.setActivity run (.finished r)).record (.finished run r)).role? run =
        some (.run i key leader) := (hquiet.role run).trans hrole
    rw [activity?_closeRun t hrole', hjoiners, hn]
    by_cases hj : t ∈ m.joiners i key <;> simp [hj]
  | crashed h hfail =>
    have hquiet := quiet_drop m run .crashed
    have hjoiners : (m.drop run .crashed).joiners i key = m.joiners i key := by
      simp only [joiners, table, hquiet.tables]
    simp only [act, h, hfail, if_true]
    rw [activity?_closeRun t ((hquiet.role run).trans hrole), hjoiners]
    have henter : old.enter = old := by
      cases old with
      | queued s => exact absurd rfl (hqueued s)
      | _ => rfl
    have hn : (m.drop run .crashed).activity? t = some old := by
      rw [activity?_drop m run t h rfl, if_neg ht.symm, hold]
      simp [henter]
    rw [hn]
    by_cases hj : t ∈ m.joiners i key <;> simp [hj]

theorem EndsRun.ne_of_joined {t run' : TaskId} {k : Outcome → Program} (h : m.EndsRun a run r r')
    (hold : m.activity? t = some (.joined run' k)) : t ≠ run := by
  rintro rfl
  cases h with
  | finished h => simp [h] at hold
  | crashed h hfail =>
    rw [h] at hold
    cases hold
    cases hfail

theorem EndsRun.ne_of_leading {t run' : TaskId} {k : Outcome → Program} (h : m.EndsRun a run r r')
    (hold : m.activity? t = some (.leading run' k)) : t ≠ run := by
  rintro rfl
  cases h with
  | finished h => simp [h] at hold
  | crashed h hfail =>
    rw [h] at hold
    cases hold
    cases hfail

end Ends

/-! ## Tables over a step -/

/-- A run that is shared under a key and has not ended. -/
def IsOpen (m : Machine) (i : Nat) (key : String) (t : TaskId) : Prop :=
  (∃ leader, m.role? t = some (.run i key leader)) ∧
    ∃ a, m.activity? t = some a ∧ a.isOver = false

/-- An action ends a run that is shared under a key. -/
def Closes (m : Machine) (a : Action) (i : Nat) (key : String) (run : TaskId) : Prop :=
  (∃ leader, m.role? run = some (.run i key leader)) ∧ ∃ r r', m.EndsRun a run r r'

/-- An action is the start of a run under a key, led by a task. -/
def Opens (m : Machine) (a : Action) (i : Nat) (key : String) (t : TaskId) : Prop :=
  ∃ run k, a = .step t ∧ m.activity? t = some (.running (.share i key run k)) ∧
    m.sharedRun? i key = none

/-- What an action makes of a table. -/
inductive TableMoves (m : Machine) (a : Action) (i : Nat) : List SharedRun → Prop where
  | same : (∀ key run, ¬m.Closes a i key run) →
      (∀ key t, m.Opens a i key t → m.tables.size ≤ i) → TableMoves m a i (m.table i)
  | join {t : TaskId} {key : String} {run : Program} {k : Outcome → Program} {e : SharedRun} :
      a = .step t → m.activity? t = some (.running (.share i key run k)) →
      m.sharedRun? i key = some e → TableMoves m a i ((m.table i).map (.join key t))
  | lead {t : TaskId} {key : String} : m.Opens a i key t →
      TableMoves m a i (m.table i ++ [⟨key, m.tasks.size, []⟩])
  | close {key : String} {run : TaskId} : m.Closes a i key run →
      TableMoves m a i ((m.table i).filter (·.key ≠ key))

theorem table_modify (m : Machine) (i j : Nat) (es : List SharedRun) :
    ({ m with tables := m.tables.modify j fun _ => es } : Machine).table i =
      if j = i ∧ i < m.tables.size then es else m.table i := by
  simp only [table, Array.getElem?_modify]
  by_cases hj : j = i
  · subst hj
    by_cases hlt : j < m.tables.size <;> simp [hlt]
  · simp [hj]

theorem table_of_size_le {m : Machine} {i : Nat} (h : m.tables.size ≤ i) : m.table i = [] := by
  simp [table, Array.getElem?_eq_none h]

section Tables

variable {m : Machine} {a : Action} {i : Nat}

theorem Opens.not_closes {key key' : String} {t run : TaskId} (h : m.Opens a i key t) :
    ¬m.Closes a i key' run := by
  rintro ⟨-, r, r', he⟩
  obtain ⟨p, k, rfl, hold, -⟩ := h
  cases he with
  | finished hrun =>
    rw [hold] at hrun
    cases hrun

theorem tableMoves_of_quiet (hclose : ∀ run r r', ¬m.EndsRun a run r r')
    (hopen : ∀ key t, ¬m.Opens a i key t) : TableMoves m a i (m.table i) :=
  .same (fun _ _ ⟨_, _, _, he⟩ => hclose _ _ _ he) fun key t ho => absurd ho (hopen key t)

theorem tableMoves_closedTables {t : TaskId} {r r' : Outcome} (he : m.EndsRun a t r r') :
    TableMoves m a i (({ m with tables := m.closedTables t } : Machine).table i) := by
  have hopen : ∀ key u, ¬m.Opens a i key u := by
    rintro key u ⟨p, k, rfl, hold, -⟩
    cases he with
    | finished hrun =>
      rw [hold] at hrun
      cases hrun
  have hsame (h : ∀ key leader, m.role? t ≠ some (.run i key leader)) :
      TableMoves m a i (m.table i) := by
    refine .same ?_ fun key u ho => absurd ho (hopen key u)
    rintro key run ⟨⟨leader, hrole⟩, s, s', he'⟩
    obtain ⟨rfl, -⟩ := he.eq he'
    exact h key leader hrole
  unfold closedTables
  split
  next j key leader hrole =>
    rw [table_modify]
    by_cases hj : j = i
    · subst hj
      have hclose : TableMoves m a j ((m.table j).filter (·.key ≠ key)) :=
        .close ⟨⟨leader, hrole⟩, r, r', he⟩
      by_cases hlt : j < m.tables.size
      · simpa [hlt] using hclose
      · rw [if_neg (by simp [hlt])]
        rwa [table_of_size_le (Nat.le_of_not_lt hlt)] at hclose ⊢
    · rw [if_neg (by simp [hj])]
      refine hsame fun key' leader' hrole' => hj ?_
      rw [hrole] at hrole'
      cases hrole'
      rfl
  next hrole => exact hsame fun key leader => hrole i key leader

theorem tableMoves_share {t : TaskId} {j : Nat} {key : String} {run : Program}
    {k : Outcome → Program} (h : m.activity? t = some (.running (.share j key run k))) :
    TableMoves m (.step t) i
      (({ m with tables := m.tablesAfter (.step t) } : Machine).table i) := by
  have hclose : ∀ run r r', ¬m.EndsRun (.step t) run r r' := by
    intro run r r' he
    cases he with
    | finished hrun =>
      rw [h] at hrun
      cases hrun
  simp only [tablesAfter, h, table_modify]
  by_cases hj : j = i ∧ i < m.tables.size
  · rw [if_pos hj]
    obtain ⟨rfl, -⟩ := hj
    cases hs : m.sharedRun? j key with
    | some e => exact .join rfl h hs
    | none => exact .lead ⟨run, k, rfl, h, hs⟩
  · rw [if_neg hj]
    refine .same ?_ ?_
    · rintro _ _ ⟨_, _, _, he⟩
      exact hclose _ _ _ he
    · rintro key' u ⟨p, k', hu, hold, -⟩
      cases hu
      rw [h] at hold
      cases hold
      exact Nat.le_of_not_lt fun hlt => hj ⟨rfl, hlt⟩

theorem tableMoves_act (m : Machine) (a : Action) (i : Nat) :
    TableMoves m a i ((m.act a).table i) := by
  have htable : (m.act a).table i = ({ m with tables := m.tablesAfter a } : Machine).table i := by
    simp only [table, (effect_act m a).tables]
  rw [htable]
  cases a with
  | step t =>
    by_cases hdone : ∃ r, m.activity? t = some (.running (.done r))
    · obtain ⟨r, h⟩ := hdone
      simp only [tablesAfter, h]
      exact tableMoves_closedTables (.finished h)
    by_cases hshare : ∃ j key run k, m.activity? t = some (.running (.share j key run k))
    · obtain ⟨j, key, run, k, h⟩ := hshare
      exact tableMoves_share h
    have hsame : m.tablesAfter (.step t) = m.tables := by
      simp only [tablesAfter]
      split
      next r h => exact absurd ⟨r, h⟩ hdone
      next j key run k h => exact absurd ⟨j, key, run, k, h⟩ hshare
      next => rfl
    rw [hsame]
    refine tableMoves_of_quiet ?_ ?_
    · intro run r r' he
      cases he with
      | finished h => exact hdone ⟨r, h⟩
    · rintro key u ⟨p, k, hu, h, -⟩
      cases hu
      exact hshare ⟨i, key, p, k, h⟩
  | crash t =>
    by_cases hfail : ∃ old, m.activity? t = some old ∧ old.canFail
    · obtain ⟨old, h, hfail⟩ := hfail
      simp only [tablesAfter, h, hfail, if_true]
      exact tableMoves_closedTables (.crashed h hfail)
    have hsame : m.tablesAfter (.crash t) = m.tables := by
      simp only [tablesAfter]
      split
      next old h => exact if_neg fun hold => hfail ⟨old, h, hold⟩
      next => rfl
    rw [hsame]
    refine tableMoves_of_quiet ?_ ?_
    · intro run r r' he
      cases he with
      | crashed h hold => exact hfail ⟨_, h, hold⟩
    · rintro key u ⟨p, k, hu, -⟩
      cases hu
  | _ =>
    refine tableMoves_of_quiet ?_ ?_
    · intro run r r' he
      cases he
    · rintro key t ⟨p, k, ha, -⟩
      cases ha

theorem table_act_of_join {t : TaskId} {key : String} {run : Program} {k : Outcome → Program}
    {e : SharedRun} (h : m.activity? t = some (.running (.share i key run k)))
    (hs : m.sharedRun? i key = some e) :
    (m.act (.step t)).table i = (m.table i).map (.join key t) := by
  have htable : (m.act (.step t)).table i =
      ({ m with tables := m.tablesAfter (.step t) } : Machine).table i := by
    simp only [table, (effect_act m (.step t)).tables]
  have hi : i < m.tables.size := by
    by_contra hlt
    simp [sharedRun?, table_of_size_le (Nat.le_of_not_lt hlt)] at hs
  rw [htable]
  simp [tablesAfter, h, hs, table_modify, hi]

end Tables

end EthRpc.Machine
