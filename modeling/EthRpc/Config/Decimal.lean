-- SUMMARY: Decimal numbers with fractions and exponents, and the doubles nearest to them.
import EthRpc.Config.Value

/-!
# Decimal numbers

A decimal number is its digits, all taken as one number, and a power of ten. Its
value is the double nearest to it, or infinite where there is none.
-/

namespace EthRpc.Config

/-- The number `digits * 10 ^ exponent` with a sign. -/
structure Decimal where
  negative : Bool
  digits : Nat
  exponent : Int

namespace Decimal

/-- The code of the nearest double, if there is one. -/
def nearest? (d : Decimal) : Option Nat :=
  let size : Int := (Nat.toDigits 10 d.digits).length + d.exponent
  if d.digits = 0 ∨ size < -400 then some 0
  else if 400 < size then none
  else
    let code := match d.exponent with
      | .ofNat k => Binary64.nearest (d.digits * Nat.pow 10 k) 1
      | .negSucc k => Binary64.nearest d.digits (Nat.pow 10 (k + 1))
    if code < Binary64.overflow then some code else none

def value (d : Decimal) : Value :=
  match d.nearest? with
  | some code => .double ⟨d.negative, code⟩
  | none => .infinite d.negative

/-- The sign at the front, which is a minus or not, and the rest. -/
def sign (cs : List Char) : Bool × List Char :=
  match cs with
  | '+' :: rest => (false, rest)
  | '-' :: rest => (true, rest)
  | _ => (false, cs)

/-- What stands before the first of some characters, and what stands after it. -/
def cut (seps : List Char) (cs : List Char) : List Char × Option (List Char) :=
  let front := cs.takeWhile (· ∉ seps)
  match cs.drop front.length with
  | [] => (front, none)
  | _ :: rest => (front, some rest)

/-- A whole number with or without a sign. -/
def readInt? (cs : List Char) : Option Int :=
  let (negative, ds) := sign cs
  (readDecimal? ds).map fun (n : Nat) => if negative then -n else n

/-- A number with digits before or after its point, and maybe an exponent. -/
def ofChars? (cs : List Char) : Option Decimal := do
  let (negative, body) := sign cs
  let (mantissa, exponent) := cut ['e', 'E'] body
  let (front, fraction) := cut ['.'] mantissa
  let places := fraction.getD []
  let e ← match exponent with
    | none => some 0
    | some ds => readInt? ds
  return ⟨negative, ← readDecimal? (front ++ places), e - places.length⟩

end Decimal

/-- A decimal number, or a word for infinity or for no number, as a double. -/
def double? (cs : List Char) : Option Value :=
  let (negative, body) := Decimal.sign cs
  let word := String.ofList (body.map Char.toLower)
  if word = "inf" ∨ word = "infinity" then some (.infinite negative)
  else if word = "nan" then some .notANumber
  else (Decimal.ofChars? cs).map Decimal.value

end EthRpc.Config
