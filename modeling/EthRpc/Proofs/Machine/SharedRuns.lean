-- SUMMARY: In every reachable state, a table lists exactly the runs that are open, and who waits is listed.
import Mathlib.Data.List.Nodup
import EthRpc.Proofs.Machine.Tables

/-!
# Shared runs

The entry of a run is made by the task that leads it, and taken away by the run
itself when it ends, well or badly. Leaders and joiners may go away in between.
The invariant ties the tables to the tasks: entries and open runs correspond
one to one, and whoever waits for a run is known to it.
-/

namespace EthRpc.Machine

/-! ## Open runs over a step -/

section Open

variable {m : Machine} {a : Action} {i : Nat} {key : String} {t : TaskId}

/-- What is over stays as it is. -/
theorem activity?_act_of_isOver {old : Activity} (h : m.activity? t = some old)
    (hover : old.isOver) (a : Action) : (m.act a).activity? t = some old := by
  obtain ⟨new, hnew, hmoves⟩ := movesTo_act m a t old h
  rw [hnew]
  cases hmoves with
  | stay => rfl
  | own hadv =>
    cases hadv with
    | learn hl _ | poll hl _ | give hl => cases hl <;> cases hover
    | _ => cases hover
  | crashed _ hfail =>
    rw [Activity.isOver_of_canFail hfail] at hover
    cases hover
  | cancelled _ hnot =>
    rw [hover] at hnot
    cases hnot
  | stopped => cases old <;> first | rfl | cases hover
  | _ => cases hover

theorem activity?_run_of_isOver {old : Activity} (h : m.activity? t = some old)
    (hover : old.isOver) (actions : List Action) : (m.run actions).activity? t = some old := by
  induction actions generalizing m with
  | nil => exact h
  | cons a rest ih => exact ih (activity?_act_of_isOver h hover a)

/-- A task that is no poll loop and no caller is over only by the end of a run. -/
theorem endsRun_of_isOver {leader : TaskId} {old new : Activity} (h : m.activity? t = some old)
    (hmoves : Moves m a t old new) (hrole : m.role? t = some (.run i key leader))
    (hloop : ¬old.isLoop) (hold : old.isOver = false) (hnew : new.isOver) :
    ∃ r r', m.EndsRun a t r r' := by
  cases hmoves with
  | stay =>
    rw [hold] at hnew
    cases hnew
  | own hadv =>
    cases hadv with
    | finish => exact ⟨_, _, .finished h⟩
    | give hl => cases hl <;> exact absurd ⟨_, _, rfl⟩ hloop
    | wake => exact absurd ⟨_, _, rfl⟩ hloop
    | _ => cases hnew
  | crashed h hfail => exact ⟨_, _, .crashed h hfail⟩
  | cancelled hcaller _ =>
    rw [hrole] at hcaller
    cases hcaller
  | stopped =>
    rw [Activity.isOver_stop, hold] at hnew
    cases hnew
  | _ => cases hnew

end Open

/-! ## Waiting for a run -/

section Waiting

variable {m : Machine} {a : Action} {t run : TaskId} {k : Outcome → Program} {old new : Activity}

theorem eq_of_stop_eq_joined (h : old.stop = .joined run k) : old = .joined run k := by
  cases old <;> first | exact h | cases h

theorem eq_of_stop_eq_leading (h : old.stop = .leading run k) : old = .leading run k := by
  cases old <;> first | exact h | cases h

/-- A task waits for a run that it joined before or joins now. -/
theorem joined_of_moves (h : Moves m a t old new) (hnew : new = .joined run k) :
    old = .joined run k ∨ a = .step t ∧ ∃ i key p e,
      old = .running (.share i key p k) ∧ m.sharedRun? i key = some e ∧ e.run = run := by
  cases h with
  | stay => exact .inl hnew
  | own h =>
    cases h with
    | join hs =>
      cases hnew
      exact .inr ⟨rfl, _, _, _, _, rfl, hs, rfl⟩
    | _ => cases hnew
  | stopped => exact .inl (eq_of_stop_eq_joined hnew)
  | _ => cases hnew

/-- A task leads a run that it led before or starts now. -/
theorem leading_of_moves (h : Moves m a t old new) (hnew : new = .leading run k) :
    old = .leading run k ∨ a = .step t ∧ run = m.tasks.size ∧ ∃ i key p,
      old = .running (.share i key p k) ∧ m.sharedRun? i key = none := by
  cases h with
  | stay => exact .inl hnew
  | own h =>
    cases h with
    | lead hs =>
      cases hnew
      exact .inr ⟨rfl, rfl, _, _, _, rfl, hs⟩
    | _ => cases hnew
  | stopped => exact .inl (eq_of_stop_eq_leading hnew)
  | _ => cases hnew

/-- Who joined a run goes on waiting, hears of its end, or is taken away by its caller. -/
theorem moves_joined (h : Moves m a t (.joined run k) new) :
    new = .joined run k ∨ (∃ r r', m.EndsRun a run r r' ∧ new = .running (k r)) ∨
      a = .abort t ∧ new = .cancelled := by
  cases h with
  | stay | stopped => exact .inl rfl
  | own h =>
    cases h with
    | learn hl _ | poll hl _ | give hl => cases hl
  | crashed _ hfail => cases hfail
  | cancelled => exact .inr (.inr ⟨rfl, rfl⟩)
  | heard he => exact .inr (.inl ⟨_, _, he, rfl⟩)

/-- Who leads a run goes on waiting, hears of its end, or is taken away by its caller. -/
theorem moves_leading (h : Moves m a t (.leading run k) new) :
    new = .leading run k ∨ (∃ r r', m.EndsRun a run r r' ∧ new = .running (k r')) ∨
      a = .abort t ∧ new = .cancelled := by
  cases h with
  | stay | stopped => exact .inl rfl
  | own h =>
    cases h with
    | learn hl _ | poll hl _ | give hl => cases hl
  | crashed _ hfail => cases hfail
  | cancelled => exact .inr (.inr ⟨rfl, rfl⟩)
  | returned he => exact .inr (.inl ⟨_, _, he, rfl⟩)

end Waiting

/-! ## The invariant -/

/-- The tables and the tasks agree on which runs are open and on who waits for them. -/
structure Orderly (m : Machine) : Prop where
  /-- Only poll loops are at work as loops. -/
  loops : ∀ {t a}, m.activity? t = some a → a.isLoop → m.role? t = some .pollLoop
  /-- A table has one entry for a key. -/
  keys : ∀ i, ((m.table i).map (·.key)).Nodup
  /-- Only open runs are listed. -/
  listed : ∀ {i e}, e ∈ m.table i → m.IsOpen i e.key e.run
  /-- All open runs are listed. -/
  known : ∀ {i key t}, i < m.tables.size → m.IsOpen i key t →
    ∃ e ∈ m.table i, e.key = key ∧ e.run = t
  /-- Who joined a run is listed with it. -/
  joined : ∀ {t run k}, m.activity? t = some (.joined run k) →
    ∃ i, ∃ e ∈ m.table i, e.run = run ∧ t ∈ e.joiners
  /-- Who leads a run leads one that is open. -/
  leading : ∀ {t run k}, m.activity? t = some (.leading run k) →
    ∃ i key a, m.role? run = some (.run i key t) ∧ m.activity? run = some a ∧ a.isOver = false

theorem table_start (settings : Tracker.Settings) (capacities : List Nat) (tables i : Nat) :
    (start settings capacities tables).table i = [] := by
  simp only [table, start, Array.getElem?_replicate]
  split <;> rfl

theorem orderly_start (settings : Tracker.Settings) (capacities : List Nat) (tables : Nat) :
    (start settings capacities tables).Orderly := by
  have hactivity : ∀ t, (start settings capacities tables).activity? t = none := fun _ => rfl
  constructor
  case keys =>
    intro i
    rw [table_start]
    exact List.nodup_nil
  case listed =>
    intro i e he
    rw [table_start] at he
    cases he
  case known =>
    rintro i key t - ⟨-, a, ha, -⟩
    cases ha
  all_goals
    intros
    simp_all

namespace Orderly

variable {m : Machine} {a : Action}

theorem loops_act (hm : m.Orderly) {t : TaskId} {new : Activity}
    (hnew : (m.act a).activity? t = some new) (hloop : new.isLoop) :
    (m.act a).role? t = some .pollLoop := by
  rcases activity?_act_cases hnew with ⟨old, hold, hmoves⟩ | ⟨rfl, role, hs⟩
  · exact role?_act (hm.loops hold (isLoop_of_moves hmoves hloop)) a
  · rw [role?_act_of_fresh hs]
    obtain ⟨b, stopped, hb⟩ := hloop
    cases spawns_of_spawned? hs with
    | caller | run => cases hb
    | loop => rfl

/-- Two entries for a key are the same. -/
theorem eq_of_key (hm : m.Orderly) {i : Nat} {e e' : SharedRun} (he : e ∈ m.table i)
    (he' : e' ∈ m.table i) (h : e.key = e'.key) : e = e' :=
  List.inj_on_of_nodup_map (hm.keys i) he he' h

theorem sharedRun?_eq_some_iff (hm : m.Orderly) {i : Nat} {key : String} {e : SharedRun} :
    m.sharedRun? i key = some e ↔ e ∈ m.table i ∧ e.key = key := by
  constructor
  · intro h
    exact ⟨List.mem_of_find?_eq_some h, by simpa using List.find?_some h⟩
  · rintro ⟨he, rfl⟩
    cases h : m.sharedRun? i e.key with
    | none => simpa using List.find?_eq_none.1 h e he
    | some e' =>
      have hkey : e'.key = e.key := by simpa using List.find?_some h
      rw [hm.eq_of_key (List.mem_of_find?_eq_some h) he hkey]

theorem joiners_eq (hm : m.Orderly) {i : Nat} {e : SharedRun} (he : e ∈ m.table i) :
    m.joiners i e.key = e.joiners := by
  have h := hm.sharedRun?_eq_some_iff.2 ⟨he, rfl⟩
  unfold sharedRun? at h
  simp [joiners, h]

/-! ### Open runs -/

theorem isOpen_act (hm : m.Orderly) {i : Nat} {key : String} {t : TaskId} (h : m.IsOpen i key t)
    (hend : ¬m.Closes a i key t) : (m.act a).IsOpen i key t := by
  obtain ⟨⟨leader, hrole⟩, old, hold, hnot⟩ := h
  obtain ⟨new, hnew, hmoves⟩ := movesTo_act m a t old hold
  refine ⟨⟨leader, role?_act hrole a⟩, new, hnew, ?_⟩
  cases hover : new.isOver with
  | false => rfl
  | true =>
    have hloop : ¬old.isLoop := by
      intro hloop
      have hpoll := hm.loops hold hloop
      rw [hrole] at hpoll
      cases hpoll
    obtain ⟨r, r', he⟩ := endsRun_of_isOver hold hmoves hrole hloop hnot hover
    exact absurd ⟨⟨leader, hrole⟩, r, r', he⟩ hend

theorem isOpen_act_of_opens {i : Nat} {key : String} {t : TaskId} (h : m.Opens a i key t) :
    (m.act a).IsOpen i key m.tasks.size := by
  obtain ⟨run, k, rfl, hold, hs⟩ := h
  have hspawned : m.spawned? (.step t) = some ⟨.run i key t, .running run⟩ := by
    simp [spawned?, hold, hs]
  exact ⟨⟨t, role?_act_of_fresh hspawned⟩, _, activity?_act_of_fresh hspawned, rfl⟩

/-- An open run was open before or is started by the action. -/
theorem isOpen_of_act {i : Nat} {key : String} {t : TaskId} (h : (m.act a).IsOpen i key t) :
    (m.IsOpen i key t ∧ ¬m.Closes a i key t) ∨
      t = m.tasks.size ∧ ∃ leader, m.Opens a i key leader := by
  obtain ⟨⟨leader, hrole⟩, new, hnew, hnot⟩ := h
  rcases activity?_act_cases hnew with ⟨old, hold, -⟩ | ⟨rfl, role, hs⟩
  · have hrole' : m.role? t = some (.run i key leader) :=
      ((effect_act m a).role t (lt_size_of_activity? hold)).symm.trans hrole
    refine .inl ⟨⟨⟨leader, hrole'⟩, old, hold, ?_⟩, ?_⟩
    · cases hover : old.isOver with
      | false => rfl
      | true =>
        rw [activity?_act_of_isOver hold hover a] at hnew
        cases hnew
        rw [hover] at hnot
        cases hnot
    · rintro ⟨-, r, r', he⟩
      rcases he.activity? with ⟨hfinished, -⟩ | ⟨hcrashed, -⟩
      · rw [hnew] at hfinished
        cases hfinished
        cases hnot
      · rw [hnew] at hcrashed
        cases hcrashed
        cases hnot
  · refine .inr ⟨rfl, leader, ?_⟩
    rw [role?_act_of_fresh hs] at hrole
    cases hrole
    cases spawns_of_spawned? hs with
    | run hold hnone => exact ⟨_, _, rfl, hold, hnone⟩

/-! ### Every step is orderly -/

theorem keys_act (hm : m.Orderly) (i : Nat) : (((m.act a).table i).map (·.key)).Nodup := by
  have hkeys := hm.keys i
  have hmoves := tableMoves_act m a i
  generalize (m.act a).table i = es at hmoves ⊢
  cases hmoves with
  | same => exact hkeys
  | @join t key =>
    have hjoin : ∀ e : SharedRun, (e.join key t).key = e.key := by
      intro e
      unfold SharedRun.join
      split <;> rfl
    simpa [List.map_map, Function.comp_def, hjoin] using hkeys
  | lead h =>
    obtain ⟨-, -, -, -, hs⟩ := h
    simp only [List.map_append, List.map_cons, List.map_nil]
    refine List.Nodup.append hkeys (List.nodup_singleton _) ?_
    rintro key hkey hkey'
    obtain ⟨e, he, rfl⟩ := List.mem_map.1 hkey
    have hne := List.find?_eq_none.1 hs e he
    simp_all
  | close => exact hkeys.sublist (List.filter_sublist.map _)

theorem listed_act (hm : m.Orderly) {i : Nat} {e : SharedRun} (he : e ∈ (m.act a).table i) :
    (m.act a).IsOpen i e.key e.run := by
  have hmoves := tableMoves_act m a i
  generalize (m.act a).table i = es at hmoves he
  cases hmoves with
  | same hclose => exact hm.isOpen_act (hm.listed he) (hclose _ _)
  | @join t key run k e₀ ha hold =>
    obtain ⟨e, he', rfl⟩ := List.mem_map.1 he
    have hclose : ¬m.Closes a i e.key e.run := by
      rintro ⟨-, r, r', hend⟩
      subst ha
      cases hend with
      | finished hrun =>
        rw [hold] at hrun
        cases hrun
    have hopen := hm.isOpen_act (hm.listed he') hclose
    unfold SharedRun.join
    split <;> exact hopen
  | lead h =>
    rcases List.mem_append.1 he with he | he
    · exact hm.isOpen_act (hm.listed he) h.not_closes
    · obtain rfl := List.mem_singleton.1 he
      exact isOpen_act_of_opens h
  | @close key run h =>
    obtain ⟨he, hkey⟩ := List.mem_filter.1 he
    refine hm.isOpen_act (hm.listed he) ?_
    rintro ⟨⟨leader, hrole⟩, r, r', hend⟩
    obtain ⟨⟨leader', hrole'⟩, s, s', hend'⟩ := h
    obtain ⟨rfl, -⟩ := hend.eq hend'
    rw [hrole] at hrole'
    cases hrole'
    simp at hkey

theorem known_act (hm : m.Orderly) {i : Nat} {key : String} {t : TaskId}
    (hi : i < (m.act a).tables.size) (h : (m.act a).IsOpen i key t) :
    ∃ e ∈ (m.act a).table i, e.key = key ∧ e.run = t := by
  rw [tables_size_act] at hi
  have hmoves := tableMoves_act m a i
  generalize (m.act a).table i = es at hmoves ⊢
  rcases isOpen_of_act h with ⟨hopen, hclose⟩ | ⟨rfl, leader, hopens⟩
  · obtain ⟨e, he, rfl, rfl⟩ := hm.known hi hopen
    cases hmoves with
    | same => exact ⟨e, he, rfl, rfl⟩
    | join =>
      refine ⟨_, List.mem_map_of_mem he, ?_⟩
      unfold SharedRun.join
      split <;> exact ⟨rfl, rfl⟩
    | lead => exact ⟨e, List.mem_append_left _ he, rfl, rfl⟩
    | @close key run hrun =>
      refine ⟨e, List.mem_filter.2 ⟨he, ?_⟩, rfl, rfl⟩
      -- Another run cannot be open under the key of the one that ends.
      simp only [ne_eq, decide_not, Bool.not_eq_true', decide_eq_false_iff_not]
      rintro rfl
      obtain ⟨hrole, r, r', hend⟩ := hrun
      obtain ⟨e', he', hkey, rfl⟩ := hm.known hi ⟨hrole, hend.not_over⟩
      rw [hm.eq_of_key he' he hkey] at hend hrole
      exact hclose ⟨hrole, r, r', hend⟩
  · cases hmoves with
    | same _ hsize => exact absurd hi (Nat.not_lt.2 (hsize key leader hopens))
    | join ha hold hs =>
      obtain ⟨run, k, hstep, hold', hs'⟩ := hopens
      rw [ha] at hstep
      cases hstep
      rw [hold] at hold'
      cases hold'
      rw [hs] at hs'
      cases hs'
    | lead hopens' =>
      obtain ⟨run, k, rfl, hold, -⟩ := hopens
      obtain ⟨run', k', hstep, hold', -⟩ := hopens'
      cases hstep
      rw [hold] at hold'
      cases hold'
      exact ⟨_, List.mem_append_right _ (List.mem_singleton_self _), rfl, rfl⟩
    | close hrun => exact absurd hrun hopens.not_closes

/-- An entry stays as long as its run does, with whoever joined it. -/
theorem exists_entry_act (hm : m.Orderly) {i : Nat} {e : SharedRun} (he : e ∈ m.table i) :
    (∃ e' ∈ (m.act a).table i, e'.key = e.key ∧ e'.run = e.run ∧ e.joiners ⊆ e'.joiners) ∨
      m.Closes a i e.key e.run := by
  have hmoves := tableMoves_act m a i
  generalize (m.act a).table i = es at hmoves ⊢
  cases hmoves with
  | same => exact .inl ⟨e, he, rfl, rfl, List.Subset.refl _⟩
  | join =>
    refine .inl ⟨_, List.mem_map_of_mem he, ?_⟩
    unfold SharedRun.join
    split
    · exact ⟨rfl, rfl, List.subset_append_left _ _⟩
    · exact ⟨rfl, rfl, List.Subset.refl _⟩
  | lead => exact .inl ⟨e, List.mem_append_left _ he, rfl, rfl, List.Subset.refl _⟩
  | @close key run h =>
    by_cases hkey : e.key = key
    · subst hkey
      obtain ⟨hrole, r, r', hend⟩ := h
      have hi : i < m.tables.size := by
        by_contra hlt
        rw [table_of_size_le (Nat.le_of_not_lt hlt)] at he
        cases he
      obtain ⟨e', he', hkey, rfl⟩ := hm.known hi ⟨hrole, hend.not_over⟩
      rw [hm.eq_of_key he' he hkey] at hend hrole
      exact .inr ⟨hrole, r, r', hend⟩
    · exact .inl ⟨e, List.mem_filter.2 ⟨he, by simpa using hkey⟩, rfl, rfl, List.Subset.refl _⟩

/-- A joiner hears of the end of its run. -/
theorem activity?_act_of_joined (hm : m.Orderly) {t run : TaskId} {k : Outcome → Program}
    {r r' : Outcome} (hold : m.activity? t = some (.joined run k)) (hend : m.EndsRun a run r r') :
    (m.act a).activity? t = some (.running (k r)) := by
  obtain ⟨i, e, he, rfl, ht⟩ := hm.joined hold
  obtain ⟨⟨leader, hrole⟩, -⟩ := hm.listed he
  have hhears := hend.hears hrole (hend.ne_of_joined hold) hold nofun
  rw [hm.joiners_eq he, if_pos ht] at hhears
  simpa [Activity.hear, Activity.hearAsLeader] using hhears

/-- A leader hears of the end of its run. -/
theorem activity?_act_of_leading (hm : m.Orderly) {t run : TaskId} {k : Outcome → Program}
    {r r' : Outcome} (hold : m.activity? t = some (.leading run k)) (hend : m.EndsRun a run r r') :
    (m.act a).activity? t = some (.running (k r')) := by
  obtain ⟨i, key, old, hrole, -⟩ := hm.leading hold
  have hhears := hend.hears hrole (hend.ne_of_leading hold) hold nofun
  simpa [Activity.hear, Activity.hearAsLeader] using hhears

theorem joined_act (hm : m.Orderly) {t run : TaskId} {k : Outcome → Program}
    (hnew : (m.act a).activity? t = some (.joined run k)) :
    ∃ i, ∃ e ∈ (m.act a).table i, e.run = run ∧ t ∈ e.joiners := by
  rcases activity?_act_cases hnew with ⟨old, hold, hmoves⟩ | ⟨rfl, role, hs⟩
  · rcases joined_of_moves hmoves rfl with rfl | ⟨rfl, i, key, p, e, rfl, hs, rfl⟩
    · obtain ⟨i, e, he, rfl, ht⟩ := hm.joined hold
      rcases hm.exists_entry_act he with ⟨e', he', -, hrun, hsub⟩ | ⟨-, r, r', hend⟩
      · exact ⟨i, e', he', hrun, hsub ht⟩
      · rw [hm.activity?_act_of_joined hold hend] at hnew
        cases hnew
    · obtain ⟨he, hkey⟩ := hm.sharedRun?_eq_some_iff.1 hs
      refine ⟨i, e.join key t, ?_, ?_⟩
      · rw [table_act_of_join hold hs]
        exact List.mem_map_of_mem he
      · simp [SharedRun.join, hkey]
  · cases spawns_of_spawned? hs

theorem leading_act (hm : m.Orderly) {t run : TaskId} {k : Outcome → Program}
    (hnew : (m.act a).activity? t = some (.leading run k)) :
    ∃ i key new, (m.act a).role? run = some (.run i key t) ∧
      (m.act a).activity? run = some new ∧ new.isOver = false := by
  rcases activity?_act_cases hnew with ⟨old, hold, hmoves⟩ | ⟨rfl, role, hs⟩
  · rcases leading_of_moves hmoves rfl with rfl | ⟨rfl, rfl, i, key, p, rfl, hs⟩
    · obtain ⟨i, key, old, hrole, hrun, hnot⟩ := hm.leading hold
      have hopen : m.IsOpen i key run := ⟨⟨t, hrole⟩, old, hrun, hnot⟩
      by_cases hclose : m.Closes a i key run
      · obtain ⟨-, r, r', hend⟩ := hclose
        rw [hm.activity?_act_of_leading hold hend] at hnew
        cases hnew
      · obtain ⟨-, new, hnew, hnot⟩ := hm.isOpen_act hopen hclose
        exact ⟨i, key, new, role?_act hrole a, hnew, hnot⟩
    · have hspawned : m.spawned? (.step t) = some ⟨.run i key t, .running p⟩ := by
        simp [spawned?, hold, hs]
      exact ⟨i, key, _, role?_act_of_fresh hspawned, activity?_act_of_fresh hspawned, rfl⟩
  · cases spawns_of_spawned? hs

theorem act (hm : m.Orderly) (a : Action) : (m.act a).Orderly where
  loops := hm.loops_act
  keys := hm.keys_act
  listed := hm.listed_act
  known := hm.known_act
  joined := hm.joined_act
  leading := hm.leading_act

theorem run (hm : m.Orderly) (actions : List Action) : (m.run actions).Orderly := by
  induction actions generalizing m with
  | nil => exact hm
  | cons a rest ih => exact ih (hm.act a)

end Orderly

end EthRpc.Machine
