-- SUMMARY: Rounding to a double depends on the quotient alone and leaves doubles as they are.
import Mathlib.Tactic.Ring
import EthRpc.Binary64

/-!
# Rounding
-/

namespace EthRpc

/-- Only the quotient counts. -/
theorem roundHalfEven_mul {k : Nat} (hk : 0 < k) (n d : Nat) :
    roundHalfEven (n * k) (d * k) = roundHalfEven n d := by
  have hdiv : n * k / (d * k) = n / d := Nat.mul_div_mul_right n d hk
  have hmod : n * k % (d * k) = n % d * k := Nat.mul_mod_mul_right k n d
  have hlt : 2 * (n % d * k) < d * k ↔ 2 * (n % d) < d := by
    rw [← Nat.mul_assoc]
    exact Nat.mul_lt_mul_right hk
  have hgt : d * k < 2 * (n % d * k) ↔ d < 2 * (n % d) := by
    rw [← Nat.mul_assoc]
    exact Nat.mul_lt_mul_right hk
  simp only [roundHalfEven, hdiv, hmod, hlt, hgt]

theorem roundHalfEven_of_exact {d : Nat} (hd : 0 < d) (q : Nat) :
    roundHalfEven (q * d) d = q := by
  have hdiv : q * d / d = q := Nat.mul_div_cancel q hd
  have hmod : q * d % d = 0 := Nat.mul_mod_left q d
  simp [roundHalfEven, hdiv, hmod, hd]

namespace Binary64

/-! ## Quotients -/

theorem nearest_mul {k : Nat} (hk : 0 < k) (num den : Nat) :
    nearest (num * k) (den * k) = nearest num den := by
  have hscaled : (num * k) <<< 1074 = (num <<< 1074) * k := by
    simp only [Nat.shiftLeft_eq, Nat.mul_right_comm]
  have hden : ∀ e, (den * k) <<< e = (den <<< e) * k := by
    intro e
    simp only [Nat.shiftLeft_eq, Nat.mul_right_comm]
  have hdiv : (num <<< 1074) * k / (den * k) = (num <<< 1074) / den :=
    Nat.mul_div_mul_right _ _ hk
  simp only [nearest, hscaled, hden, hdiv, roundHalfEven_mul hk]

/-- Equal quotients are rounded alike. -/
theorem nearest_congr {a b c d : Nat} (hb : 0 < b) (hd : 0 < d) (h : a * d = c * b) :
    nearest a b = nearest c d :=
  calc nearest a b
      _ = nearest (a * d) (b * d) := (nearest_mul hd a b).symm
      _ = nearest (c * b) (d * b) := by rw [h, Nat.mul_comm b d]
      _ = nearest c d := nearest_mul hb c d

/-! ## Doubles -/

theorem log2_eq {n k : Nat} (hlow : 2 ^ k ≤ n) (hhigh : n < 2 ^ (k + 1)) : n.log2 = k := by
  have hne : n ≠ 0 := by
    rintro rfl
    exact absurd hlow (Nat.not_le.2 (Nat.two_pow_pos k))
  exact (Nat.log2_eq_iff hne).2 ⟨hlow, hhigh⟩

theorem significand_of_lt {code : Nat} (h : code < 1 <<< 52) : significand code = code :=
  if_pos h

theorem significand_of_not_lt {code : Nat} (h : ¬code < 1 <<< 52) :
    significand code = 2 ^ 52 + code % 2 ^ 52 := if_neg h

/-- The grid of doubles at a magnitude is the one that its pattern was made on. -/
theorem log2_units_sub (code : Nat) : (units code).log2 - 52 = exponent code := by
  have hshift : code >>> 52 = code / 2 ^ 52 := Nat.shiftRight_eq_div_pow code 52
  by_cases h : code < 1 <<< 52
  · have hdiv : code / 2 ^ 52 = 0 := Nat.div_eq_of_lt h
    have hexp : exponent code = 0 := by rw [exponent, hshift, hdiv]
    have hunits : units code = code := by simp [units, significand_of_lt h, hexp]
    rw [hunits, hexp, Nat.sub_eq_zero_iff_le]
    by_cases hzero : code = 0
    · simp [hzero]
    · exact Nat.le_of_lt ((Nat.log2_lt hzero).2 h)
  · have hunits : units code = (2 ^ 52 + code % 2 ^ 52) * 2 ^ exponent code := by
      rw [units, significand_of_not_lt h, Nat.shiftLeft_eq]
    have hmod : code % 2 ^ 52 < 2 ^ 52 := Nat.mod_lt code (by decide)
    have hlog : (units code).log2 = 52 + exponent code := by
      apply log2_eq
      · rw [hunits, Nat.pow_add]
        exact Nat.mul_le_mul_right _ (Nat.le_add_right _ _)
      · rw [hunits, Nat.add_right_comm, Nat.pow_add]
        exact Nat.mul_lt_mul_of_pos_right (by omega) (Nat.two_pow_pos _)
    rw [hlog, Nat.add_sub_cancel_left]

/-- Patterns count the doubles from zero upwards. -/
theorem exponent_add_significand (code : Nat) :
    exponent code <<< 52 + significand code = code := by
  have hshift : code >>> 52 = code / 2 ^ 52 := Nat.shiftRight_eq_div_pow code 52
  simp only [exponent, hshift, significand, Nat.shiftLeft_eq, Nat.one_mul]
  split <;> omega

/-- A double is the one nearest to itself. -/
theorem nearest_units (code : Nat) : nearest (units code) (1 <<< 1074) = code := by
  have hone := Nat.one_shiftLeft 1074
  have hquot : (units code) <<< 1074 / (1 <<< 1074) = units code := by
    rw [Nat.shiftLeft_eq, hone]
    exact Nat.mul_div_cancel _ (Nat.two_pow_pos 1074)
  have hscaled : (units code) <<< 1074 =
      significand code * ((1 <<< 1074) <<< exponent code) := by
    simp only [units, Nat.shiftLeft_eq, Nat.one_mul, Nat.mul_right_comm, Nat.mul_assoc]
  have hpos : 0 < (1 <<< 1074) <<< exponent code := by
    rw [Nat.shiftLeft_eq]
    exact Nat.mul_pos (by decide) (Nat.two_pow_pos _)
  simp only [nearest, hquot, log2_units_sub]
  rw [hscaled, roundHalfEven_of_exact hpos, exponent_add_significand]

end Binary64

end EthRpc
