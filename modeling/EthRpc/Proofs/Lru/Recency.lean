-- SUMMARY: A bounded map holds the keys that were used last, and under each the value of its last use.
import Mathlib.Data.List.Dedup
import EthRpc.Proofs.Lru

/-!
# The order of use

What a bounded map holds can be told from the uses that were made of it. A map
without a bound would hold every key that was ever used, the last one first, and
the bounded map holds the first of these entries, as many as it has room for. So
a key is there as long as fewer other keys than that were used since it was.
-/

namespace EthRpc.Lru

variable {α : Type}

/-- A value was written under a key, or was found there. -/
structure Use (α : Type) where
  key : String
  value : α
  written : Bool
  deriving DecidableEq

/-- The entries of a map without a bound, after uses of which the last one comes first. -/
def recent : List (Use α) → List (String × α)
  | [] => []
  | u :: us => (u.key, u.value) :: without u.key (recent us)

/-- The keys that were used since a key was, each of them once. -/
def keysSince (key : String) (us : List (Use α)) : List String :=
  ((us.takeWhile (·.key ≠ key)).map (·.key)).dedup

/-- What is found under a key is what was last written or found there. -/
inductive Consistent : List (Use α) → Prop where
  | nil : Consistent []
  | write {key : String} {v : α} {us : List (Use α)} :
      Consistent us → Consistent (⟨key, v, true⟩ :: us)
  | read {key : String} {v : α} {us : List (Use α)} :
      (recent us).lookup key = some v → Consistent us → Consistent (⟨key, v, false⟩ :: us)

/-! ## The map without a bound -/

section Recent

variable {key : String} {v : α} {us : List (Use α)} {entries : List (String × α)}

theorem keys_without (key : String) (entries : List (String × α)) :
    (without key entries).map (·.1) = (entries.map (·.1)).filter (· ≠ key) := by
  rw [without, List.filter_map]
  rfl

theorem nodup_recent (us : List (Use α)) : ((recent us).map (·.1)).Nodup := by
  induction us with
  | nil => exact List.nodup_nil
  | cons u us ih =>
    rw [recent, List.map_cons, keys_without]
    exact (ih.filter _).cons (by simp)

theorem mem_keys_recent : key ∈ (recent us).map (·.1) ↔ key ∈ us.map (·.key) := by
  induction us with
  | nil => rfl
  | cons u us ih =>
    rw [recent, List.map_cons, keys_without, List.mem_cons, List.mem_filter, ih, List.map_cons,
      List.mem_cons]
    by_cases h : key = u.key <;> simp [h]

theorem length_recent (us : List (Use α)) :
    (recent us).length = ((us.map (·.key)).dedup).length := by
  have hperm : ((recent us).map (·.1)).Perm (us.map (·.key)).dedup :=
    (List.perm_ext_iff_of_nodup (nodup_recent us) (List.nodup_dedup _)).2 fun key => by
      rw [mem_keys_recent, List.mem_dedup]
  rw [← hperm.length_eq, List.length_map]

/-- The entries before a key are those of the keys that were used since. -/
theorem takeWhile_recent (key : String) (us : List (Use α)) :
    (recent us).takeWhile (·.1 ≠ key) = recent (us.takeWhile (·.key ≠ key)) := by
  have hfilter : ∀ {other : String}, other ≠ key → ∀ entries : List (String × α),
      (without other entries).takeWhile (·.1 ≠ key) =
        without other (entries.takeWhile (·.1 ≠ key)) := by
    intro other hother entries
    induction entries with
    | nil => rfl
    | cons p entries ih =>
      simp only [without] at ih ⊢
      by_cases hkey : p.1 = key
      · simp [hkey, hother.symm]
      · by_cases hp : p.1 = other
        · simpa [hp, hother] using ih
        · simpa [hp, hkey] using ih
  induction us with
  | nil => rfl
  | cons u us ih =>
    by_cases hkey : u.key = key
    · simp [recent, hkey]
    · simp only [recent, List.takeWhile_cons, ne_eq, hkey, not_false_eq_true, decide_true, if_true]
      rw [← ih, ← hfilter hkey]

theorem length_takeWhile_recent (key : String) (us : List (Use α)) :
    ((recent us).takeWhile (·.1 ≠ key)).length = (keysSince key us).length := by
  rw [takeWhile_recent, length_recent, keysSince]

/-- A key is among the first entries if few enough of them come before it. -/
theorem lookup_take_iff {n : Nat} : (entries.take n).lookup key = some v ↔
    entries.lookup key = some v ∧ (entries.takeWhile (·.1 ≠ key)).length < n := by
  induction entries generalizing n with
  | nil => simp
  | cons p entries ih =>
    obtain ⟨first, w⟩ := p
    cases n with
    | zero => simp
    | succ n =>
      rw [List.take_succ_cons, List.lookup_cons, List.lookup_cons]
      by_cases hkey : key = first
      · simp [hkey]
      · have hother : (key == first) = false := by simpa using hkey
        simp [hother, ih, Ne.symm hkey]

/-- If an entry is taken out, those behind it move up. -/
theorem take_without (h : (entries.map (·.1)).Nodup) (key : String) (n : Nat) :
    (without key (entries.take (n + 1))).take n = (without key entries).take n := by
  induction entries generalizing n with
  | nil => rfl
  | cons p entries ih =>
    rw [List.map_cons, List.nodup_cons] at h
    simp only [without, List.take_succ_cons] at ih ⊢
    by_cases hkey : p.1 = key
    · have hall : ∀ q ∈ entries, q.1 ≠ key := by
        rintro q hq rfl
        exact h.1 (hkey ▸ List.mem_map_of_mem hq)
      have hsame : entries.filter (·.1 ≠ key) = entries := List.filter_eq_self.2 (by simpa using hall)
      have hsame' : (entries.take n).filter (·.1 ≠ key) = entries.take n :=
        List.filter_eq_self.2 fun q hq => by simpa using hall q (List.mem_of_mem_take hq)
      simp only [List.filter_cons, hkey, ne_eq, not_true_eq_false, decide_false,
        Bool.false_eq_true, if_false]
      rw [hsame, hsame', List.take_take, Nat.min_self]
    · cases n with
      | zero => rfl
      | succ n => simpa [hkey] using ih h.2 n

end Recent

/-! ## The bounded map -/

/-- A map is what these uses have made of it, the last of which comes first. -/
structure Recorded (m : Lru α) (us : List (Use α)) : Prop where
  entries : m.entries = (recent us).take m.capacity
  consistent : Consistent us

section Recorded

variable {m m' : Lru α} {us : List (Use α)} {key : String} {v : α}

theorem recorded_empty (capacity : Nat) : (empty capacity : Lru α).Recorded [] :=
  ⟨List.take_nil.symm, .nil⟩

/-- A map holds a key if fewer other keys were used since than it has room for. -/
theorem Recorded.peek?_iff (h : m.Recorded us) : m.peek? key = some v ↔
    (recent us).lookup key = some v ∧ (keysSince key us).length < m.capacity := by
  rw [peek?, h.entries, lookup_take_iff, length_takeWhile_recent]

theorem Recorded.get? (h : m.Recorded us) (hget : m.get? key = some (v, m')) :
    m'.Recorded (⟨key, v, false⟩ :: us) := by
  have hmem := mem_of_get? hget
  obtain ⟨hpeek, rfl⟩ := get?_eq_some_iff.1 hget
  obtain ⟨hlookup, hfew⟩ := h.peek?_iff.1 hpeek
  refine ⟨?_, .read hlookup h.consistent⟩
  obtain ⟨n, hn⟩ := Nat.exists_eq_add_one.2 (Nat.zero_lt_of_lt hfew)
  have hlength : (without key m.entries).length ≤ n := by
    have hlt := length_without_lt hmem
    have hle : m.entries.length ≤ n + 1 := by
      rw [h.entries, hn]
      exact List.length_take_le _ _
    omega
  show (key, v) :: without key m.entries = _
  simp only [recent, hn, List.take_succ_cons]
  rw [← take_without (nodup_recent us), ← hn, ← h.entries, List.take_of_length_le hlength]

theorem Recorded.insert (h : m.Recorded us) (key : String) (v : α) :
    (m.insert key v).2.Recorded (⟨key, v, true⟩ :: us) := by
  refine ⟨?_, .write h.consistent⟩
  unfold Lru.insert
  split
  next hzero => simpa [hzero] using h.entries
  next hpos =>
    obtain ⟨n, hn⟩ := Nat.exists_eq_add_one.2 (Nat.pos_of_ne_zero hpos)
    simp only [recent, hn, List.take_succ_cons]
    rw [← take_without (nodup_recent us), ← hn, ← h.entries]

/-- A value that was written or found under a key is the last one there as long as nothing else is
written under the key. -/
theorem Consistent.lookup_recent {u : Use α} {later earlier : List (Use α)}
    (h : Consistent (later ++ u :: earlier))
    (hlater : ∀ w ∈ later, w.key = u.key → w.written = false) :
    (recent (later ++ u :: earlier)).lookup u.key = some u.value := by
  induction later with
  | nil => simp [recent]
  | cons w later ih =>
    have hrest : Consistent (later ++ u :: earlier) := by cases h <;> assumption
    have hbefore := ih hrest fun w hw => hlater w (List.mem_cons_of_mem _ hw)
    by_cases hkey : u.key = w.key
    · rw [List.cons_append] at h ⊢
      generalize later ++ u :: earlier = us at h hbefore ⊢
      cases h with
      | write => cases hlater _ List.mem_cons_self hkey.symm
      | @read key v _ hfound =>
        obtain rfl : u.key = key := hkey
        rw [hbefore] at hfound
        simp [recent, hfound]
    · have hother : (u.key == w.key) = false := by simpa using hkey
      rw [List.cons_append, recent, List.lookup_cons, hother]
      exact (lookup_without hkey _).trans hbefore

end Recorded

end EthRpc.Lru
