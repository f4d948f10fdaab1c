-- SUMMARY: Reading runs of digits in bases up to thirty-six; writing is the standard library's.

/-!
# Digits

Digits are letters of either case after nine. A run of digits is read most
significant digit first. Numbers are written by `Nat.toDigits`, in lower case.
-/

namespace EthRpc

/-- The value of a digit, whatever the base. -/
def digitValue? (c : Char) : Option Nat :=
  if '0' ≤ c ∧ c ≤ '9' then some (c.toNat - 48)
  else if 'a' ≤ c ∧ c ≤ 'z' then some (c.toNat - 87)
  else if 'A' ≤ c ∧ c ≤ 'Z' then some (c.toNat - 55)
  else none

/-- The value of a digit of the given base. -/
def digitIn? (base : Nat) (c : Char) : Option Nat :=
  (digitValue? c).filter (· < base)

/-- Read on from the value `acc` of the digits before; anything but a digit fails. -/
def readDigits? (base acc : Nat) : List Char → Option Nat
  | [] => some acc
  | c :: cs => (digitIn? base c).bind fun d => readDigits? base (base * acc + d) cs

@[simp] theorem readDigits?_nil (base acc : Nat) : readDigits? base acc [] = some acc := rfl

theorem readDigits?_append (base acc : Nat) (as bs : List Char) :
    readDigits? base acc (as ++ bs) =
      (readDigits? base acc as).bind fun n => readDigits? base n bs := by
  induction as generalizing acc with
  | nil => rfl
  | cons a as ih =>
    simp only [List.cons_append, readDigits?]
    cases digitIn? base a with
    | none => rfl
    | some d => simpa using ih _

/-- A decimal number without sign. -/
def readDecimal? : List Char → Option Nat
  | [] => none
  | c :: cs => readDigits? 10 0 (c :: cs)

/-- A number in exactly `count` digits, and the text after it. -/
def takeDigits? (base count : Nat) (cs : List Char) : Option (Nat × List Char) :=
  let ds := cs.take count
  if ds.length < count then none else (readDigits? base 0 ds).map fun n => (n, cs.drop count)

/-- The character with a number. -/
def charOf? (n : Nat) : Option Char := if h : n.isValidChar then some (Char.ofNatAux n h) else none

/-- A number below `2 ^ 64`, or nothing. -/
def below64? (n : Nat) : Option Nat := if n < 1 <<< 64 then some n else none

/-- A number from `-2 ^ 63` to `2 ^ 63 - 1`, or nothing. -/
def within64? (i : Int) : Option Int :=
  if -(1 <<< 63 : Nat) ≤ i ∧ i < (1 <<< 63 : Nat) then some i else none

theorem below64?_eq_some_iff {n m : Nat} : below64? n = some m ↔ n = m ∧ n < 1 <<< 64 := by
  unfold below64?
  split <;> simp <;> omega

end EthRpc
