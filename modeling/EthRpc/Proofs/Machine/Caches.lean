-- SUMMARY: Caches stay within their bounds and hold only what some task stored in them, unless it is pushed out.
import EthRpc.Proofs.Lru
import EthRpc.Proofs.Machine.History

/-!
# Caches
-/

namespace EthRpc.Machine

/-! ## Caches over a step -/

/-- What an action makes of a cache. -/
inductive CacheMoves (m : Machine) (a : Action) (i : Nat) (old : Lru Json) : Lru Json → Prop where
  | same : CacheMoves m a i old old
  | read {t : TaskId} {key : String} {k : Option Json → Program} {v : Json} {new : Lru Json} :
      a = .step t → m.activity? t = some (.running (.ask (.lookup i key) k)) →
      old.get? key = some (v, new) → CacheMoves m a i old new
  | write {t : TaskId} {key : String} {v : Json} {k : Unit → Program} :
      a = .step t → m.activity? t = some (.running (.ask (.keep i key v) k)) →
      CacheMoves m a i old (old.insert key v).2

section Step

variable {m : Machine} {a : Action} {i : Nat}

theorem cacheMoves_act {new : Lru Json} (h : (m.act a).caches[i]? = some new) :
    ∃ old, m.caches[i]? = some old ∧ CacheMoves m a i old new := by
  rw [(effect_act m a).caches] at h
  have hsame (h : m.caches[i]? = some new) :
      ∃ old, m.caches[i]? = some old ∧ CacheMoves m a i old new := ⟨new, h, .same⟩
  cases a with
  | step t =>
    simp only [cachesAfter] at h
    split at h
    next j key k hold =>
      split at h
      next v cache hget =>
        obtain ⟨old, hcache, hread⟩ := Option.bind_eq_some_iff.1 hget
        rw [Array.getElem?_modify] at h
        split at h
        next hij =>
          subst hij
          rw [hcache] at h
          cases h
          exact ⟨old, hcache, .read rfl hold hread⟩
        next => exact hsame h
      next => exact hsame h
    next j key v k hold =>
      rw [Array.getElem?_modify] at h
      split at h
      next hij =>
        subst hij
        obtain ⟨old, hcache, rfl⟩ := Option.map_eq_some_iff.1 h
        exact ⟨old, hcache, .write rfl hold⟩
      next => exact hsame h
    next => exact hsame h
  | _ => exact hsame h

end Step

/-! ## Caches over a run -/

/-- Caches are within their bounds, and what they hold was stored. -/
structure Backed (m : Machine) : Prop where
  within : ∀ {i : Nat} {cache : Lru Json}, m.caches[i]? = some cache → cache.length ≤ cache.capacity
  stored : ∀ {i : Nat} {cache : Lru Json} {p : String × Json}, m.caches[i]? = some cache →
    p ∈ cache.entries → ∃ t, m.Stored t i p.1 p.2

theorem exists_capacity_of_start {settings : Tracker.Settings} {capacities : List Nat} {tables : Nat}
    {i : Nat} {cache : Lru Json} (h : (start settings capacities tables).caches[i]? = some cache) :
    ∃ capacity, capacities[i]? = some capacity ∧ cache = .empty capacity := by
  simp only [start, List.getElem?_toArray, List.getElem?_map] at h
  obtain ⟨capacity, hcapacity, rfl⟩ := Option.map_eq_some_iff.1 h
  exact ⟨capacity, hcapacity, rfl⟩

theorem backed_start (settings : Tracker.Settings) (capacities : List Nat) (tables : Nat) :
    (start settings capacities tables).Backed := by
  constructor
  case within =>
    intro i cache h
    obtain ⟨capacity, -, rfl⟩ := exists_capacity_of_start h
    exact Nat.zero_le _
  case stored =>
    intro i cache p h hp
    obtain ⟨capacity, -, rfl⟩ := exists_capacity_of_start h
    cases hp

namespace Backed

variable {m : Machine}

theorem act (hm : m.Backed) (a : Action) : (m.act a).Backed := by
  constructor
  case within =>
    intro i new h
    obtain ⟨old, hold, hmoves⟩ := cacheMoves_act h
    have hwithin := hm.within hold
    cases hmoves with
    | same => exact hwithin
    | read _ _ hget =>
      rw [Lru.capacity_of_get? hget]
      exact Nat.le_trans (Lru.length_le_of_get? hget) hwithin
    | write =>
      rw [Lru.capacity_insert]
      exact Lru.length_insert_le hwithin _ _
  case stored =>
    intro i new p h hp
    obtain ⟨old, hold, hmoves⟩ := cacheMoves_act h
    have hearlier (hp : p ∈ old.entries) : ∃ t, (m.act a).Stored t i p.1 p.2 := by
      obtain ⟨t, ht⟩ := hm.stored hold hp
      exact ⟨t, ht.of_suffix (log_suffix_act m a)⟩
    cases hmoves with
    | same => exact hearlier hp
    | read _ _ hget => exact hearlier (Lru.entries_subset_of_get? hget hp)
    | @write t key v k ha hold =>
      rcases Lru.mem_of_mem_insert hp with rfl | hp
      · subst ha
        refine ⟨t, m.now, mem_log_act.2 (.inl ⟨rfl, ?_⟩)⟩
        simp [events, hold, commandEvents]
      · exact hearlier hp

theorem run (hm : m.Backed) (actions : List Action) : (m.run actions).Backed := by
  induction actions generalizing m with
  | nil => exact hm
  | cons a rest ih => exact ih (hm.act a)

end Backed

theorem caches_size_act (m : Machine) (a : Action) : (m.act a).caches.size = m.caches.size := by
  rw [(effect_act m a).caches]
  unfold cachesAfter
  split
  · split
    · split
      · exact Array.size_modify
      · rfl
    · exact Array.size_modify
    · rfl
  · rfl

theorem caches_size_run (m : Machine) (actions : List Action) :
    (m.run actions).caches.size = m.caches.size := by
  induction actions generalizing m with
  | nil => rfl
  | cons a rest ih => exact (ih (m.act a)).trans (caches_size_act m a)

theorem capacity_act {m : Machine} {a : Action} {i : Nat} {new : Lru Json}
    (h : (m.act a).caches[i]? = some new) :
    ∃ old, m.caches[i]? = some old ∧ new.capacity = old.capacity := by
  obtain ⟨old, hold, hmoves⟩ := cacheMoves_act h
  refine ⟨old, hold, ?_⟩
  cases hmoves with
  | same => rfl
  | read _ _ hget => exact Lru.capacity_of_get? hget
  | write => exact Lru.capacity_insert _ _ _

theorem capacity_run {m : Machine} {actions : List Action} {i : Nat} {new : Lru Json}
    (h : (m.run actions).caches[i]? = some new) :
    ∃ old, m.caches[i]? = some old ∧ new.capacity = old.capacity := by
  induction actions generalizing m with
  | nil => exact ⟨new, h, rfl⟩
  | cons a rest ih =>
    obtain ⟨mid, hmid, heq⟩ := ih h
    obtain ⟨old, hold, heq'⟩ := capacity_act hmid
    exact ⟨old, hold, heq.trans heq'⟩

/-- A cache is there at every moment, with the room that it was given. -/
theorem exists_cache_run {settings : Tracker.Settings} {capacities : List Nat} {i capacity : Nat}
    (h : capacities[i]? = some capacity) (tables : Nat) (actions : List Action) :
    ∃ cache, ((start settings capacities tables).run actions).caches[i]? = some cache ∧
      cache.capacity = capacity := by
  have hsize : i < ((start settings capacities tables).run actions).caches.size := by
    rw [caches_size_run]
    simpa [start] using (List.getElem?_eq_some_iff.1 h).1
  have hcache := Array.getElem?_eq_getElem hsize
  obtain ⟨old, hold, hcapacity⟩ := capacity_run hcache
  obtain ⟨capacity', h', rfl⟩ := exists_capacity_of_start hold
  rw [h] at h'
  cases h'
  exact ⟨_, hcache, hcapacity⟩

/-! ## What a cache holds -/

/-- A cache has this value under a key. -/
def Holds (m : Machine) (i : Nat) (key : String) (v : Json) : Prop :=
  m.caches[i]?.bind (·.peek? key) = some v

/-- A task is about to write a value into a cache. -/
def Keeps (m : Machine) (t : TaskId) (i : Nat) (key : String) (v : Json) : Prop :=
  ∃ k, m.activity? t = some (.running (.ask (.keep i key v) k))

section Holds

variable {m : Machine} {a : Action} {t : TaskId} {i : Nat} {key : String} {v : Json}

theorem holds_iff : m.Holds i key v ↔ ∃ cache, m.caches[i]? = some cache ∧
    cache.peek? key = some v := Option.bind_eq_some_iff

/-- A lookup finds what the cache holds, and nothing else. -/
theorem Replies.holds_iff {found : Option Json} (h : m.Replies (.lookup i key) found) :
    m.Holds i key v ↔ found = some v := by
  rw [Machine.holds_iff]
  cases h with
  | @hit _ _ w _ hget =>
    obtain ⟨cache, hcache, hread⟩ := Option.bind_eq_some_iff.1 hget
    have hpeek := (Lru.get?_eq_some_iff.1 hread).1
    simp [hcache, hpeek]
  | miss hget =>
    simp only [reduceCtorEq, iff_false]
    rintro ⟨cache, hcache, hpeek⟩
    simp [hcache, Lru.get?, hpeek] at hget

theorem exists_cache_act {old : Lru Json} (h : m.caches[i]? = some old) (a : Action) :
    ∃ new, (m.act a).caches[i]? = some new ∧ CacheMoves m a i old new := by
  have hlt : i < (m.act a).caches.size := by
    rw [caches_size_act]
    exact (Array.getElem?_eq_some_iff.1 h).1
  have hnew := Array.getElem?_eq_getElem hlt
  obtain ⟨old', hold', hmoves⟩ := cacheMoves_act hnew
  rw [h] at hold'
  cases hold'
  exact ⟨_, hnew, hmoves⟩

/-- What a cache holds was there before, or has just been written. -/
theorem holds_of_act (h : (m.act a).Holds i key v) :
    m.Holds i key v ∨ ∃ t, a = .step t ∧ m.Keeps t i key v := by
  obtain ⟨new, hnew, hpeek⟩ := holds_iff.1 h
  obtain ⟨old, hold, hmoves⟩ := cacheMoves_act hnew
  have hbefore (hpeek : old.peek? key = some v) : m.Holds i key v :=
    holds_iff.2 ⟨old, hold, hpeek⟩
  cases hmoves with
  | same => exact .inl (hbefore hpeek)
  | read _ _ hget =>
    rw [Lru.peek?_of_get? hget] at hpeek
    exact .inl (hbefore hpeek)
  | @write t _ _ k ha hkeep =>
    rcases Lru.peek?_of_insert hpeek with ⟨rfl, rfl⟩ | hpeek
    · exact .inr ⟨t, ha, k, hkeep⟩
    · exact .inl (hbefore hpeek)

/-- A key stays in a cache as long as nothing is written under other keys. -/
theorem Holds.act (h : m.Holds i key v)
    (hkeeps : ∀ t key' w, a = .step t → m.Keeps t i key' w → key' = key) :
    ∃ w, (m.act a).Holds i key w := by
  obtain ⟨old, hold, hpeek⟩ := holds_iff.1 h
  obtain ⟨new, hnew, hmoves⟩ := exists_cache_act hold a
  have hafter {w : Json} (hpeek : new.peek? key = some w) : ∃ w, (m.act a).Holds i key w :=
    ⟨w, holds_iff.2 ⟨new, hnew, hpeek⟩⟩
  cases hmoves with
  | same => exact hafter hpeek
  | read _ _ hget => exact hafter ((Lru.peek?_of_get? hget key).trans hpeek)
  | @write t key' w k ha hkeep =>
    obtain rfl := hkeeps t key' w ha ⟨k, hkeep⟩
    obtain ⟨w', hw'⟩ := Lru.peek?_insert_isSome hpeek w
    exact hafter hw'

/-- What is written into a cache with room for anything is there. -/
theorem Keeps.holds {cache : Lru Json} (h : m.Keeps t i key v) (hcache : m.caches[i]? = some cache)
    (hroom : 0 < cache.capacity) : (m.act (.step t)).Holds i key v := by
  obtain ⟨k, hkeep⟩ := h
  refine holds_iff.2 ⟨(cache.insert key v).2, ?_, Lru.peek?_insert_self hroom key v⟩
  simp [(effect_act m _).caches, cachesAfter, hkeep, hcache, Array.getElem?_modify]

/-- What a task stored, it kept at some moment. -/
theorem Stored.exists_keeps {settings : Tracker.Settings} {capacities : List Nat} {tables : Nat}
    {actions : List Action}
    (h : ((start settings capacities tables).run actions).Stored t i key v) :
    ∃ d, d ++ [.step t] <+: actions ∧
      ((start settings capacities tables).run d).Keeps t i key v := by
  obtain ⟨time, hmem⟩ := h
  obtain ⟨d, a, hd, hemits⟩ := exists_emits hmem
  cases hemits with
  | stored hkeeping => exact ⟨d, hd, _, hkeeping⟩

end Holds

/-! ### Over a run -/

section Run

variable {m : Machine} {b : List Action} {i : Nat} {key : String} {v : Json}

/-- What a cache holds was there before, or was written since. -/
theorem holds_of_run {c : List Action} (hbc : b <+: c) (h : (m.run c).Holds i key v) :
    (m.run b).Holds i key v ∨
      ∃ d t, b <+: d ∧ d ++ [.step t] <+: c ∧ (m.run d).Keeps t i key v := by
  obtain ⟨rest, rfl⟩ := hbc
  induction rest using List.reverseRecOn with
  | nil => exact .inl (by simpa using h)
  | append_singleton rest a ih =>
    rw [← List.append_assoc, run_append] at h
    rcases holds_of_act h with hbefore | ⟨t, rfl, hkeeps⟩
    · rcases ih hbefore with hbefore | ⟨d, t, hd, hdc, hkeeps⟩
      · exact .inl hbefore
      · refine .inr ⟨d, t, hd, hdc.trans ?_, hkeeps⟩
        exact (List.prefix_append_right_inj b).2 (List.prefix_append _ _)
    · exact .inr ⟨b ++ rest, t, List.prefix_append _ _, by simp, hkeeps⟩

/-- A key stays in a cache as long as nothing is written under other keys. -/
theorem Holds.run {c : List Action} (h : (m.run b).Holds i key v) (hbc : b <+: c)
    (hkeeps : ∀ d t key' w, b <+: d → d ++ [.step t] <+: c → (m.run d).Keeps t i key' w →
      key' = key) : ∃ w, (m.run c).Holds i key w := by
  obtain ⟨rest, rfl⟩ := hbc
  induction rest using List.reverseRecOn with
  | nil => exact ⟨v, by simpa using h⟩
  | append_singleton rest a ih =>
    have hlast : b ++ rest <+: b ++ (rest ++ [a]) :=
      (List.prefix_append_right_inj b).2 (List.prefix_append _ _)
    obtain ⟨w, hw⟩ := ih fun d t key' w hd hdc => hkeeps d t key' w hd (hdc.trans hlast)
    rw [← List.append_assoc, run_append]
    refine hw.act ?_
    rintro t key' w' rfl hkeep
    exact hkeeps (b ++ rest) t key' w' (List.prefix_append _ _) (by simp) hkeep

end Run

end EthRpc.Machine
