-- SUMMARY: A bounded map stays within its bound and holds nothing that was not put there.
import EthRpc.Lru

/-!
# Bounded maps
-/

namespace EthRpc.Lru

variable {α : Type} {m m' : Lru α} {key : String} {v : α}

theorem mem_of_peek? (h : m.peek? key = some v) : (key, v) ∈ m.entries := by
  obtain ⟨before, after, hentries, -⟩ := List.lookup_eq_some_iff.1 h
  rw [hentries]
  exact List.mem_append_right _ List.mem_cons_self

theorem without_subset (key : String) (entries : List (String × α)) :
    without key entries ⊆ entries := fun _ h => (List.mem_filter.1 h).1

/-- Other keys do not notice that a key was taken out. -/
theorem lookup_without {key' : String} (h : key' ≠ key) (entries : List (String × α)) :
    (without key entries).lookup key' = entries.lookup key' := by
  induction entries with
  | nil => rfl
  | cons p rest ih =>
    obtain ⟨first, w⟩ := p
    simp only [without, List.filter_cons] at ih ⊢
    split
    next => simp only [List.lookup_cons, ih]
    next hp =>
      obtain rfl : first = key := by simpa using hp
      have hother : (key' == first) = false := by simpa using h
      rw [ih, List.lookup_cons, hother]

theorem length_without_lt {entries : List (String × α)} (h : (key, v) ∈ entries) :
    (without key entries).length < entries.length :=
  List.length_filter_lt_length_iff_exists.2 ⟨_, h, by simp⟩

/-! ## Reading -/

theorem get?_eq_some_iff :
    m.get? key = some (v, m') ↔
      m.peek? key = some v ∧ m' = { m with entries := (key, v) :: without key m.entries } := by
  constructor
  · intro h
    obtain ⟨v', hv', heq⟩ := Option.map_eq_some_iff.1 h
    cases heq
    exact ⟨hv', rfl⟩
  · rintro ⟨hv, rfl⟩
    simp [get?, hv]

theorem mem_of_get? (h : m.get? key = some (v, m')) : (key, v) ∈ m.entries :=
  mem_of_peek? (get?_eq_some_iff.1 h).1

theorem capacity_of_get? (h : m.get? key = some (v, m')) : m'.capacity = m.capacity := by
  obtain ⟨-, rfl⟩ := get?_eq_some_iff.1 h
  rfl

/-- Reading changes the order of the entries, not what they are. -/
theorem entries_subset_of_get? (h : m.get? key = some (v, m')) : m'.entries ⊆ m.entries := by
  have hmem := mem_of_get? h
  obtain ⟨-, rfl⟩ := get?_eq_some_iff.1 h
  exact List.cons_subset.2 ⟨hmem, without_subset key m.entries⟩

theorem length_le_of_get? (h : m.get? key = some (v, m')) : m'.length ≤ m.length := by
  have hlt := length_without_lt (mem_of_get? h)
  obtain ⟨-, rfl⟩ := get?_eq_some_iff.1 h
  exact hlt

/-- Reading shows what was there, and still is. -/
theorem peek?_of_get? (h : m.get? key = some (v, m')) (key' : String) :
    m'.peek? key' = m.peek? key' := by
  obtain ⟨hpeek, rfl⟩ := get?_eq_some_iff.1 h
  by_cases hkey : key' = key
  · subst hkey
    simp [peek?, ← hpeek]
  · have hother : (key' == key) = false := by simpa using hkey
    simp only [peek?, List.lookup_cons, hother]
    exact lookup_without hkey m.entries

/-! ## Writing -/

@[simp] theorem capacity_insert (m : Lru α) (key : String) (v : α) :
    (m.insert key v).2.capacity = m.capacity := by
  unfold insert
  split <;> rfl

/-- Whatever a full map has to forget, it stays within its bound. -/
theorem length_insert_le (h : m.length ≤ m.capacity) (key : String) (v : α) :
    (m.insert key v).2.length ≤ m.capacity := by
  unfold insert
  split
  · exact h
  · exact List.length_take_le _ _

theorem mem_of_mem_insert {p : String × α} (h : p ∈ (m.insert key v).2.entries) :
    p = (key, v) ∨ p ∈ m.entries := by
  unfold insert at h
  split at h
  · exact .inr h
  · rcases List.mem_cons.1 (List.mem_of_mem_take h) with hp | hp
    · exact .inl hp
    · exact .inr (without_subset key m.entries hp)

/-- A map with room for anything has what was written last. -/
theorem peek?_insert_self (h : 0 < m.capacity) (key : String) (v : α) :
    (m.insert key v).2.peek? key = some v := by
  obtain ⟨n, hn⟩ := Nat.exists_eq_add_one.2 h
  simp [insert, peek?, hn]

/-- What a map has after a write was written or was there before. -/
theorem peek?_of_insert {key' : String} {w : α} (h : (m.insert key v).2.peek? key' = some w) :
    key' = key ∧ w = v ∨ m.peek? key' = some w := by
  unfold insert at h
  split at h
  · exact .inr h
  · -- What is left of the entries comes first among them.
    have hall : ((key, v) :: without key m.entries).lookup key' = some w :=
      List.IsPrefix.lookup_eq_some (List.take_prefix _ _) h
    rw [List.lookup_cons] at hall
    split at hall
    next hkey =>
      cases hall
      exact .inl ⟨by simpa using hkey, rfl⟩
    next hkey =>
      rw [lookup_without (by simpa using hkey)] at hall
      exact .inr hall

/-- A key stays in a map under which nothing but the key itself is written. -/
theorem peek?_insert_isSome {w : α} (h : m.peek? key = some w) (v : α) :
    ∃ w', (m.insert key v).2.peek? key = some w' := by
  rcases Nat.eq_zero_or_pos m.capacity with hzero | hpos
  · exact ⟨w, by simpa [insert, hzero] using h⟩
  · exact ⟨v, peek?_insert_self hpos key v⟩

end EthRpc.Lru
