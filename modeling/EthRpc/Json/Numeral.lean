-- SUMMARY: The spelling of a JSON number and the number it denotes.
import EthRpc.Digits
import EthRpc.Json.Basic

/-!
# Numerals

A numeral is a number as it is spelled: sign, digits before the point, digits
after it, exponent. One without point and exponent is whole if it is in range.
Any other is a double: its leading digits, as many as fit into 64 bits, are
rounded to a double, which is then scaled by a power of ten with one more
rounding. A numeral too large for a double denotes nothing.
-/

namespace EthRpc.Json

structure Numeral where
  negative : Bool
  whole : List Char
  /-- The digits after the point, if there is one. -/
  fraction : Option (List Char)
  /-- The sign and the digits of the exponent, if there is one. -/
  exponent : Option (Bool × List Char)
  deriving DecidableEq

namespace Numeral

/-- The value of the leading digits that fit into 64 bits, and how many digits were left. -/
def leading (acc : Nat) : List Char → Nat × Nat
  | [] => (acc, 0)
  | c :: cs =>
    let next := acc * 10 + (c.toNat - 48)
    if next < 1 <<< 64 then leading next cs else (acc, cs.length + 1)

/-- The powers of ten up to this one are doubles; scaling goes in steps no larger. -/
def largestPower : Nat := 308

/-- Scale a double by a power of ten; `none` when it grows too large. -/
def scale (code : Nat) (exponent : Int) : Option Nat :=
  match exponent with
  | .ofNat k =>
    if k ≤ largestPower then
      let scaled := Binary64.mul code (Binary64.ofNat (Nat.pow 10 k))
      if scaled < Binary64.overflow then some scaled else none
    else if code = 0 then some 0
    else none
  | .negSucc k => some (shrink code (k + 1) (k + 1))
where
  /-- Divide in steps until the exponent is used up or nothing is left. -/
  shrink (code : Nat) : Nat → Nat → Nat
    | 0, _ => code
    | fuel + 1, k =>
      if k ≤ largestPower then Binary64.div code (Binary64.ofNat (Nat.pow 10 k))
      else if code = 0 then 0
      else shrink (Binary64.div code (Binary64.ofNat (Nat.pow 10 largestPower))) fuel (k - largestPower)

/-- An exponent beyond 32 bits: too large, or so small that nothing is left. -/
def exponentLimit : Nat := 1 <<< 31 - 1

/-- The magnitude of a numeral that is no whole number. -/
def double? (n : Numeral) : Option Nat :=
  let (high, dropped) := leading 0 n.whole
  let (digits, places) := match n.fraction with
    | none => (high, 0)
    | some ds =>
      let (all, rest) := leading high ds
      (all, ds.length - rest)
  let point : Int := dropped - places
  let code := Binary64.ofNat digits
  match n.exponent with
  | none => scale code point
  | some (down, ds) =>
    let e := (readDigits? 10 0 ds).getD 0
    if exponentLimit < e then
      if digits ≠ 0 ∧ ¬down then none else some 0
    else scale code (if down then point - e else point + e)

/-- The number that a numeral denotes. -/
def number? (n : Numeral) : Option Number :=
  let asDouble := n.double?.map fun code => .double ⟨n.negative, code⟩
  match n.fraction, n.exponent with
  | none, none =>
    let value := (readDigits? 10 0 n.whole).getD 0
    if 1 <<< 64 ≤ value then asDouble
    else if ¬n.negative then some (.whole value)
    else if value ≠ 0 ∧ value ≤ 1 <<< 63 then some (.negative value)
    else asDouble
  | _, _ => asDouble

end Numeral

end EthRpc.Json
