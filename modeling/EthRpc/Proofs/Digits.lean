-- SUMMARY: Numbers that are written in digits read back.
import Mathlib.Algebra.Group.Nat.Defs
import Mathlib.Tactic.Common
import EthRpc.Quantity

/-!
# Digits

The standard library writes a number digit by digit; the readers of this library
give it back, so that two numbers are never written alike.
-/

namespace EthRpc

/-! ## One digit -/

theorem digitIn?_digitChar {b d : Nat} (hd : d < b) (hb : b ≤ 16) :
    digitIn? b (Nat.digitChar d) = some d := by
  have hvalue : ∀ d < 16, digitValue? (Nat.digitChar d) = some d := by decide
  simp [digitIn?, hvalue d (Nat.lt_of_lt_of_le hd hb), hd]

theorem toLower_digitChar {d : Nat} (hd : d < 16) :
    (Nat.digitChar d).toLower = Nat.digitChar d := by
  have hlower : ∀ d < 16, (Nat.digitChar d).toLower = Nat.digitChar d := by decide
  exact hlower d hd

/-! ## Runs of digits -/

theorem readDigits?_toDigits {b : Nat} (hb : 1 < b) (hb' : b ≤ 16) (n : Nat) :
    readDigits? b 0 (Nat.toDigits b n) = some n := by
  induction n using Nat.strongRecOn with
  | ind n ih =>
    by_cases hn : n < b
    · rw [Nat.toDigits_of_lt_base hn]
      simp [readDigits?, digitIn?_digitChar hn hb']
    · have hle : b ≤ n := Nat.le_of_not_lt hn
      have hdiv : n / b < n := Nat.div_lt_self (by omega) hb
      have hmod : n % b < b := Nat.mod_lt n (by omega)
      rw [Nat.toDigits_of_base_le hb hle, readDigits?_append, ih _ hdiv]
      simp [readDigits?, digitIn?_digitChar hmod hb', Nat.div_add_mod]

/-- Zeros move what was read before them up. -/
theorem readDigits?_zeros {b : Nat} (hb : 0 < b) (acc j : Nat) :
    readDigits? b acc (List.replicate j '0') = some (acc * b ^ j) := by
  have hzero : digitIn? b '0' = some 0 := by
    have hvalue : digitValue? '0' = some 0 := rfl
    simp [digitIn?, hvalue, hb]
  induction j generalizing acc with
  | zero => simp
  | succ j ih =>
    simp only [List.replicate_succ, readDigits?, hzero, Option.bind_some, ih]
    rw [Nat.pow_succ', Nat.add_zero, Nat.mul_comm b acc, Nat.mul_assoc]

/-- Among digits is nothing but digits. -/
theorem not_mem_of_readDigits? {b acc n : Nat} {ds : List Char} {c : Char}
    (h : readDigits? b acc ds = some n) (hc : digitIn? b c = none) : c ∉ ds := by
  induction ds generalizing acc with
  | nil => exact List.not_mem_nil
  | cons d ds ih =>
    simp only [readDigits?] at h
    intro hmem
    rcases List.mem_cons.1 hmem with rfl | hmem
    · simp [hc] at h
    · cases hd : digitIn? b d with
      | none => simp [hd] at h
      | some v =>
        rw [hd] at h
        exact ih h hmem

theorem toDigits_injective {b m n : Nat} (hb : 1 < b) (hb' : b ≤ 16)
    (h : Nat.toDigits b m = Nat.toDigits b n) : m = n := by
  have hm := readDigits?_toDigits hb hb' m
  rw [h, readDigits?_toDigits hb hb' n] at hm
  exact (Option.some.inj hm).symm

theorem exists_digit_of_mem_toDigits {b n : Nat} {c : Char} (hb : 1 < b) (hb' : b ≤ 16)
    (hc : c ∈ Nat.toDigits b n) : ∃ d < b, c = Nat.digitChar d := by
  induction n using Nat.strongRecOn with
  | ind n ih =>
    by_cases hn : n < b
    · rw [Nat.toDigits_of_lt_base hn, List.mem_singleton] at hc
      exact ⟨n, hn, hc⟩
    · have hle : b ≤ n := Nat.le_of_not_lt hn
      have hdiv : n / b < n := Nat.div_lt_self (by omega) hb
      rw [Nat.toDigits_of_base_le hb hle, List.mem_append, List.mem_singleton] at hc
      rcases hc with hc | hc
      · exact ih _ hdiv hc
      · exact ⟨n % b, Nat.mod_lt n (by omega), hc⟩

/-- Zeros in front change nothing. -/
theorem readDigits?_zeros_toDigits {b : Nat} (hb : 1 < b) (hb' : b ≤ 16) (zeros n : Nat) :
    readDigits? b 0 (List.replicate zeros '0' ++ Nat.toDigits b n) = some n := by
  rw [readDigits?_append, readDigits?_zeros (Nat.zero_lt_of_lt hb), Nat.zero_mul, Option.bind_some]
  exact readDigits?_toDigits hb hb' n

theorem exists_digit_of_mem_zeros_toDigits {b zeros n : Nat} {c : Char} (hb : 1 < b) (hb' : b ≤ 16)
    (hc : c ∈ List.replicate zeros '0' ++ Nat.toDigits b n) : ∃ d < b, c = Nat.digitChar d := by
  rcases List.mem_append.1 hc with hzero | hc
  · exact ⟨0, Nat.zero_lt_of_lt hb, List.eq_of_mem_replicate hzero⟩
  · exact exists_digit_of_mem_toDigits hb hb' hc

namespace Quantity

theorem text_injective {m n : Nat} (h : text m = text n) : m = n := by
  have hlist := congrArg String.toList h
  simp only [text, String.toList_ofList, List.cons.injEq, true_and] at hlist
  exact toDigits_injective (by decide) (by decide) hlist

/-- The strict reader takes the canonical text of a number. -/
theorem strict?_text {n : Nat} (hn : n < 1 <<< 64) : strict? (text n) = some n := by
  have hread := readDigits?_toDigits (b := 16) (by decide) (by decide) n
  have hbelow : below64? n = some n := below64?_eq_some_iff.2 ⟨rfl, hn⟩
  simp only [strict?, text, String.toList_ofList]
  cases hds : Nat.toDigits 16 n with
  | nil => exact absurd hds Nat.toDigits_ne_nil
  | cons c rest =>
    rw [hds] at hread
    have hplus : c ≠ '+' := by
      have hne : ∀ d < 16, Nat.digitChar d ≠ '+' := by decide
      have hc : c ∈ Nat.toDigits 16 n := by simp [hds]
      obtain ⟨d, hd, rfl⟩ := exists_digit_of_mem_toDigits (by decide) (by decide) hc
      exact hne d hd
    unfold hex?
    split
    · simp_all
    · simp_all
    · simp_all [hex?.digits]
    · simp_all

end Quantity

end EthRpc
