-- SUMMARY: Caches hold what the record of a run says was used last, in this order.
import EthRpc.Proofs.Lru.Recency
import EthRpc.Proofs.Machine.Caches

/-!
# Caches and the record

Every value that goes into a cache or comes out of it is recorded, and nothing
else changes a cache. So the record tells what a cache holds, and how long a key
stays.
-/

namespace EthRpc.Machine

/-- The use of a cache that an event tells of. -/
def Event.use? (i : Nat) : Event → Option (Lru.Use Json)
  | stored _ j key v => if j = i then some ⟨key, v, true⟩ else none
  | recalled _ j key v => if j = i then some ⟨key, v, false⟩ else none
  | _ => none

/-- The uses that were made of a cache, the last one first. -/
def uses (m : Machine) (i : Nat) : List (Lru.Use Json) := m.log.filterMap (·.2.use? i)

/-- Caches are what the recorded uses have made of them. -/
def CachesRecorded (m : Machine) : Prop :=
  ∀ (i : Nat) (cache : Lru Json), m.caches[i]? = some cache → cache.Recorded (m.uses i)

/-- A value was written or found under a key at some time and nothing was written under the key
since, and fewer than so many other keys were used since the key was used last. -/
structure LastUsed (m : Machine) (i : Nat) (key : String) (v : Json) (bound : Nat) : Prop where
  used : ∃ later u earlier, m.uses i = later ++ u :: earlier ∧ u.key = key ∧ u.value = v ∧
    ∀ w ∈ later, w.key = key → w.written = false
  few : (Lru.keysSince key (m.uses i)).length < bound

section Step

variable {m : Machine} {a : Action} {i : Nat}

theorem uses_act (m : Machine) (a : Action) (i : Nat) :
    (m.act a).uses i = (m.events a).filterMap (·.use? i) ++ m.uses i := by
  simp [uses, (effect_act m a).log, List.filterMap_append, List.filterMap_map]

/-- Only reading and writing is a use. -/
theorem uses_act_of_other (hlookup : ∀ t key k, a = .step t →
      m.activity? t ≠ some (.running (.ask (.lookup i key) k)))
    (hkeep : ∀ t key v k, a = .step t →
      m.activity? t ≠ some (.running (.ask (.keep i key v) k))) :
    (m.act a).uses i = m.uses i := by
  rw [uses_act, List.append_left_eq_self, List.filterMap_eq_nil_iff]
  intro e he
  cases emits_of_mem_events he with
  | @stored t j key v k hold =>
    refine if_neg ?_
    rintro rfl
    exact hkeep t key v k rfl hold
  | @recalled t j key v k hold =>
    refine if_neg ?_
    rintro rfl
    exact hlookup t key k rfl hold
  | _ => rfl

/-- What an action makes of a cache is a use of it, and recorded, or nothing. -/
theorem CachesRecorded.act (hm : m.CachesRecorded) (a : Action) : (m.act a).CachesRecorded := by
  intro i new hnew
  have hsame (hcache : m.caches[i]? = some new) (huses : (m.act a).uses i = m.uses i) :
      new.Recorded ((m.act a).uses i) := by
    rw [huses]
    exact hm i _ hcache
  by_cases hlookup : ∃ t key k, a = .step t ∧
      m.activity? t = some (.running (.ask (.lookup i key) k))
  · obtain ⟨t, key, k, rfl, hold⟩ := hlookup
    have huses := uses_act m (.step t) i
    simp only [(effect_act m _).caches, cachesAfter, hold] at hnew
    simp only [events, hold, commandEvents] at huses
    split at hnew
    next v cache hget =>
      obtain ⟨old, hcache, hread⟩ := Option.bind_eq_some_iff.1 hget
      simp only [Array.getElem?_modify, if_true, hcache, Option.map_some, Option.some.injEq] at hnew
      subst hnew
      simp only [hget, List.filterMap_cons, Event.use?, if_true, List.filterMap_nil] at huses
      rw [huses]
      exact (hm i _ hcache).get? hread
    next hget =>
      simp only [hget] at huses
      exact hsame hnew huses
  by_cases hkeep : ∃ t key v k, a = .step t ∧
      m.activity? t = some (.running (.ask (.keep i key v) k))
  · obtain ⟨t, key, v, k, rfl, hold⟩ := hkeep
    have huses := uses_act m (.step t) i
    simp only [(effect_act m _).caches, cachesAfter, hold, Array.getElem?_modify, if_true] at hnew
    obtain ⟨old, hcache, rfl⟩ := Option.map_eq_some_iff.1 hnew
    simp only [events, hold, commandEvents, List.filterMap_cons, Event.use?, if_true,
      List.filterMap_nil] at huses
    rw [huses]
    exact (hm i _ hcache).insert key v
  · obtain ⟨old, hcache, hmoves⟩ := cacheMoves_act hnew
    cases hmoves with
    | same =>
      exact hsame hcache (uses_act_of_other (fun t key k ha hold => hlookup ⟨t, key, k, ha, hold⟩)
        fun t key v k ha hold => hkeep ⟨t, key, v, k, ha, hold⟩)
    | read ha hold _ => exact absurd ⟨_, _, _, ha, hold⟩ hlookup
    | write ha hold => exact absurd ⟨_, _, _, _, ha, hold⟩ hkeep

end Step

theorem CachesRecorded.run {m : Machine} (hm : m.CachesRecorded) (actions : List Action) :
    (m.run actions).CachesRecorded := by
  induction actions generalizing m with
  | nil => exact hm
  | cons a rest ih => exact ih (hm.act a)

theorem cachesRecorded_start (settings : Tracker.Settings) (capacities : List Nat) (tables : Nat) :
    (start settings capacities tables).CachesRecorded := by
  intro i cache h
  obtain ⟨capacity, -, rfl⟩ := exists_capacity_of_start h
  exact Lru.recorded_empty capacity

/-- A value that was used last under a key is there as long as the cache has room for more keys
than were used since. -/
theorem CachesRecorded.holds {m : Machine} (hm : m.CachesRecorded) {i : Nat} {cache : Lru Json}
    {key : String} {v : Json} (hcache : m.caches[i]? = some cache)
    (h : m.LastUsed i key v cache.capacity) : m.Holds i key v := by
  obtain ⟨⟨later, u, earlier, huses, rfl, rfl, hlater⟩, hfew⟩ := h
  have hrecorded := hm i _ hcache
  refine holds_iff.2 ⟨cache, hcache, hrecorded.peek?_iff.2 ⟨?_, hfew⟩⟩
  have hconsistent := hrecorded.consistent
  rw [huses] at hconsistent ⊢
  exact hconsistent.lookup_recent hlater

end EthRpc.Machine
