-- SUMMARY: Hexadecimal digits denote a number by their places; quantities and hashes are read off them.
import EthRpc.Proofs.Block.Spelling

/-!
# Hexadecimal digits

What a run of digits denotes is said by the places of the digits, without a
reader. The digits that a number is written with are the shortest run that
denotes it, and every other run only has zeros in front of them.
-/

namespace EthRpc

/-- Digits in lower case, at least one, that denote a number. -/
def Hexadecimal (cs : List Char) (n : Nat) : Prop :=
  ∃ ds : List Nat, ds ≠ [] ∧ (∀ d ∈ ds, d < 16) ∧ cs = ds.map Nat.digitChar ∧
    n = ds.foldl (16 * · + ·) 0

/-! ## Reading and writing -/

theorem readDigits?_map_digitChar {ds : List Nat} (h : ∀ d ∈ ds, d < 16) (acc : Nat) :
    readDigits? 16 acc (ds.map Nat.digitChar) = some (ds.foldl (16 * · + ·) acc) := by
  induction ds generalizing acc with
  | nil => rfl
  | cons d ds ih =>
    have hd : digitIn? 16 (Nat.digitChar d) = some d :=
      digitIn?_digitChar (h d List.mem_cons_self) (Nat.le_refl 16)
    rw [List.map_cons, readDigits?, hd, Option.bind_some,
      ih (fun e he => h e (List.mem_cons_of_mem d he))]
    rfl

theorem exists_digits_of_readDigits? {cs : List Char} {acc n : Nat}
    (hlower : ∀ c ∈ cs, c.toLower = c) (h : readDigits? 16 acc cs = some n) :
    ∃ ds : List Nat, (∀ d ∈ ds, d < 16) ∧ cs = ds.map Nat.digitChar ∧
      n = ds.foldl (16 * · + ·) acc := by
  induction cs generalizing acc with
  | nil => exact ⟨[], by simp, rfl, (Option.some.inj h).symm⟩
  | cons c cs ih =>
    obtain ⟨d, hd, hrest⟩ := Option.bind_eq_some_iff.1 h
    obtain ⟨hlt, rfl⟩ := eq_digitChar_of_digitIn? hd (hlower c List.mem_cons_self)
    obtain ⟨ds, hds, rfl, rfl⟩ := ih (fun e he => hlower e (List.mem_cons_of_mem _ he)) hrest
    exact ⟨d :: ds, by simpa using ⟨hlt, hds⟩, rfl, rfl⟩

namespace Hexadecimal

theorem exists_digit {cs : List Char} {n : Nat} (h : Hexadecimal cs n) {c : Char} (hc : c ∈ cs) :
    ∃ d < 16, c = Nat.digitChar d := by
  obtain ⟨ds, -, hds, rfl, -⟩ := h
  obtain ⟨d, hd, rfl⟩ := List.mem_map.1 hc
  exact ⟨d, hds d hd, rfl⟩

theorem toLower {cs : List Char} {n : Nat} (h : Hexadecimal cs n) : ∀ c ∈ cs, c.toLower = c := by
  intro c hc
  obtain ⟨d, hd, rfl⟩ := h.exists_digit hc
  exact toLower_digitChar hd

/-- Digits denote what they are read as. -/
theorem iff_readDigits? {cs : List Char} {n : Nat} (hlower : ∀ c ∈ cs, c.toLower = c) :
    Hexadecimal cs n ↔ cs ≠ [] ∧ readDigits? 16 0 cs = some n := by
  constructor
  · rintro ⟨ds, hne, hds, rfl, rfl⟩
    exact ⟨by simpa using hne, readDigits?_map_digitChar hds 0⟩
  · rintro ⟨hne, hread⟩
    obtain ⟨ds, hds, rfl, rfl⟩ := exists_digits_of_readDigits? hlower hread
    exact ⟨ds, by simpa using hne, hds, rfl, rfl⟩

/-- The digits of a number may only have zeros in front of them. -/
theorem iff_zeros {cs : List Char} {n : Nat} :
    Hexadecimal cs n ↔ ∃ zeros, cs = List.replicate zeros '0' ++ Nat.toDigits 16 n := by
  constructor
  · intro h
    obtain ⟨hne, hread⟩ := (iff_readDigits? h.toLower).1 h
    exact exists_zeros_of_readDigits? hne h.toLower hread
  · rintro ⟨zeros, rfl⟩
    have hlower : ∀ c ∈ List.replicate zeros '0' ++ Nat.toDigits 16 n, c.toLower = c := by
      intro c hc
      obtain ⟨d, hd, rfl⟩ := exists_digit_of_mem_zeros_toDigits (by decide) (by decide) hc
      exact toLower_digitChar hd
    refine (iff_readDigits? hlower).2 ⟨by simp [Nat.toDigits_ne_nil], ?_⟩
    exact readDigits?_zeros_toDigits (by decide) (by decide) zeros n

theorem toDigits (n : Nat) : Hexadecimal (Nat.toDigits 16 n) n := iff_zeros.2 ⟨0, rfl⟩

/-- A number is written with as few digits as can denote it. -/
theorem length_toDigits_le {cs : List Char} {n : Nat} (h : Hexadecimal cs n) :
    (Nat.toDigits 16 n).length ≤ cs.length := by
  obtain ⟨zeros, rfl⟩ := iff_zeros.1 h
  simp

theorem lt_pow_length {cs : List Char} {n : Nat} (h : Hexadecimal cs n) : n < 16 ^ cs.length := by
  have hpos : 0 < cs.length := List.length_pos_iff.2 ((iff_readDigits? h.toLower).1 h).1
  exact (Nat.length_toDigits_le_iff (by decide) hpos).1 h.length_toDigits_le

end Hexadecimal

/-! ## Quantities -/

/-- A text spells a number by `0x`, a plus sign or none, and digits that denote it. -/
theorem Quantity.spells_iff {s : String} {n : Nat} :
    Spells s n ↔ ∃ sign digits, (sign = [] ∨ sign = ['+']) ∧
      lowered s = '0' :: 'x' :: (sign ++ digits) ∧ Hexadecimal digits n := by
  constructor
  · rintro ⟨sign, zeros, hsign, hlower⟩
    exact ⟨sign, _, hsign, hlower, Hexadecimal.iff_zeros.2 ⟨zeros, rfl⟩⟩
  · rintro ⟨sign, digits, hsign, hlower, hdigits⟩
    obtain ⟨zeros, rfl⟩ := Hexadecimal.iff_zeros.1 hdigits
    exact ⟨sign, zeros, hsign, hlower⟩

/-! ## Hashes -/

namespace Hash32

/-- The digits of a hash, 64 of them, in letters of either case. -/
def Written (h : Hash32) (digits : List Char) : Prop :=
  digits.length = 64 ∧ Hexadecimal (digits.map Char.toLower) h.toNat

/-- What may stand before the digits of a hash. -/
def marks : List (List Char) := [[], ['0', 'x'], ['0', 'X']]

theorem ofDigits?_eq_some_iff {digits : List Char} {h : Hash32} :
    ofDigits? digits = some h ↔ h.Written digits := by
  have hlower : ∀ c ∈ digits.map Char.toLower, c.toLower = c := by
    intro c hc
    obtain ⟨d, -, rfl⟩ := List.mem_map.1 hc
    exact toLower_toLower d
  unfold ofDigits? Written
  rw [Option.ite_none_right_eq_some, Option.map_eq_some_iff]
  refine and_congr_right fun hlength => ?_
  have hne : digits.map Char.toLower ≠ [] := by
    rintro hnil
    simp [List.map_eq_nil_iff.1 hnil] at hlength
  constructor
  · rintro ⟨n, hread, rfl⟩
    rw [← readDigits?_map_toLower] at hread
    have hdigits := (Hexadecimal.iff_readDigits? hlower).2 ⟨hne, hread⟩
    have hlt : n < 2 ^ 256 := by
      have hbound := hdigits.lt_pow_length
      rwa [List.length_map, hlength] at hbound
    have hvalue : (ofNat n).toNat = n := by
      rw [ofNat, toNat, BitVec.toNat_ofNat, Nat.mod_eq_of_lt hlt]
    rwa [hvalue]
  · intro hdigits
    refine ⟨h.toNat, ?_, ?_⟩
    · rw [← readDigits?_map_toLower]
      exact ((Hexadecimal.iff_readDigits? hlower).1 hdigits).2
    · rw [ofNat, toNat, BitVec.ofNat_toNat, BitVec.setWidth_eq]

/-- The digits of a hash are in ASCII, and none is the letter in a mark. -/
theorem Written.of_mem {h : Hash32} {digits : List Char} (hw : h.Written digits) {c : Char}
    (hc : c ∈ digits) : c.toNat < 128 ∧ c.toLower ≠ 'x' := by
  have hdigits : ∀ d < 16, (Nat.digitChar d).toNat < 128 ∧ Nat.digitChar d ≠ 'x' := by decide
  obtain ⟨d, hd, heq⟩ := hw.2.exists_digit (List.mem_map_of_mem hc)
  obtain ⟨hlt, hne⟩ := hdigits d hd
  rw [← heq] at hlt hne
  exact ⟨toNat_lt_of_toLower_lt hlt, hne⟩

theorem ofText?_of_written {s : String} {h : Hash32} {mark digits : List Char}
    (hmark : mark ∈ marks) (hs : s.toList = mark ++ digits) (hw : h.Written digits) :
    ofText? s = some h := by
  have hread := ofDigits?_eq_some_iff.2 hw
  have hmarks : mark = [] ∨ mark = ['0', 'x'] ∨ mark = ['0', 'X'] := by simpa [marks] using hmark
  rcases hmarks with rfl | rfl | rfl
  · -- Digits by themselves do not begin like a mark.
    have hnot : ∀ c ∈ s.toList, c.toLower ≠ 'x' := by
      intro c hc
      exact (hw.of_mem (by simpa [hs] using hc)).2
    unfold ofText?
    split
    next hlist => exact absurd rfl (hnot 'x' (by simp [hlist]))
    next hlist => exact absurd rfl (hnot 'X' (by simp [hlist]))
    next => rwa [hs]
  · simpa [ofText?, hs] using hread
  · simpa [ofText?, hs] using hread

/-- A hash is read from its digits, with a mark or without. -/
theorem ofText?_eq_some_iff {s : String} {h : Hash32} :
    ofText? s = some h ↔
      ∃ mark ∈ marks, ∃ digits, s.toList = mark ++ digits ∧ h.Written digits := by
  constructor
  · intro hread
    unfold ofText? at hread
    split at hread
    next rest hs => exact ⟨['0', 'x'], by decide, rest, hs, ofDigits?_eq_some_iff.1 hread⟩
    next rest hs => exact ⟨['0', 'X'], by decide, rest, hs, ofDigits?_eq_some_iff.1 hread⟩
    next => exact ⟨[], by decide, s.toList, rfl, ofDigits?_eq_some_iff.1 hread⟩
  · rintro ⟨mark, hmark, digits, hs, hw⟩
    exact ofText?_of_written hmark hs hw

end Hash32

end EthRpc
