-- SUMMARY: Finite double precision numbers as bit patterns, with exact rounding and their shortest decimal text.

/-!
# Doubles

A finite double is a sign and the low 63 bits of its pattern, which count the
doubles from zero upwards. All arithmetic is exact on natural numbers with one
rounding at the end, to the nearest double and to the even one on a tie.

The text of a double has the fewest digits that read back as the same double;
of several such texts it is the nearest.
-/

namespace EthRpc

/-- The quotient rounded to the nearest whole number, a half to the even one. -/
def roundHalfEven (n d : Nat) : Nat :=
  let q := n / d
  let r := n % d
  if 2 * r < d then q else if d < 2 * r then q + 1 else q + q % 2

structure Binary64 where
  negative : Bool
  /-- How many doubles lie between zero and the magnitude. -/
  code : Nat
  deriving DecidableEq

namespace Binary64

/-- The first pattern that is no finite number. -/
def overflow : Nat := 2047 <<< 52

/-- Magnitudes are `significand * 2 ^ exponent` in units of `2 ^ -1074`. -/
def significand (code : Nat) : Nat :=
  if code < 1 <<< 52 then code else 1 <<< 52 + code % 1 <<< 52

@[inherit_doc significand] def exponent (code : Nat) : Nat := code >>> 52 - 1

/-- The magnitude counted in units of `2 ^ -1074`. -/
def units (code : Nat) : Nat := significand code <<< exponent code

/-- The pattern of the double nearest to the quotient. -/
def nearest (num den : Nat) : Nat :=
  let scaled := num <<< 1074
  let e := (scaled / den).log2 - 52
  e <<< 52 + roundHalfEven scaled (den <<< e)

/-- The double nearest to a whole number. -/
def ofNat (n : Nat) : Nat := nearest n 1

/-- The product, rounded once. -/
def mul (a b : Nat) : Nat := nearest (units a * units b) (1 <<< 2148)

/-- The quotient, rounded once. -/
def div (a b : Nat) : Nat := nearest (units a) (units b)

/-- The whole number that a magnitude denotes after dropping its fraction. -/
def truncate (code : Nat) : Nat := units code >>> 1074

/-! ## Shortest decimal text -/

/-- The exponent of the leading decimal digit of a positive quotient. -/
def leadingExponent (num den : Nat) : Int :=
  if den ≤ num then ((Nat.toDigits 10 (num / den)).length : Int) - 1
  else - ((Nat.toDigits 10 ((den + num - 1) / num - 1)).length : Int)

/-- A decimal `digits * 10 ^ scale`, as a quotient. -/
def decimalQuotient (digits : Nat) (scale : Int) : Nat × Nat :=
  match scale with
  | .ofNat k => (digits * Nat.pow 10 k, 1)
  | .negSucc k => (digits, Nat.pow 10 (k + 1))

/-- The decimal reads back as the given double. -/
def readsBack (code digits : Nat) (scale : Int) : Bool :=
  let q := decimalQuotient digits scale
  nearest q.1 q.2 == code

/-- The neighbours of a double on the grid of multiples of `10 ^ scale` that read back, nearest first. -/
def onGrid (code : Nat) (scale : Int) : Option Nat :=
  let num := units code
  let den := 1 <<< 1074
  let (n, d) := match scale with
    | .ofNat k => (num, den * Nat.pow 10 k)
    | .negSucc k => (num * Nat.pow 10 (k + 1), den)
  let low := n / d
  let below := readsBack code low scale
  let above := readsBack code (low + 1) scale
  match below, above with
  | true, true => some (roundHalfEven n d)
  | true, false => some low
  | false, true => some (low + 1)
  | false, false => none

/-- Try ever finer grids. -/
def shortestFrom (code : Nat) (lead : Int) : Nat → Nat → Nat × Int
  | 0, _ => (units code, 0)
  | fuel + 1, count =>
    let scale := lead - count + 1
    match onGrid code scale with
    | some digits => (digits, scale)
    | none => shortestFrom code lead fuel (count + 1)

/-- The shortest digits and the exponent of the last one; a grid that has the double itself has a hit. -/
def shortest (code : Nat) : Nat × Int :=
  let lead := leadingExponent (units code) (1 <<< 1074)
  shortestFrom code lead (lead.toNat + 1075) 1

/-- Drop the zeros at the end of a run of digits, counting them into the exponent. -/
def trimZeros : List Char → Int → List Char × Int
  | '0' :: ds, k => trimZeros ds (k + 1)
  | ds, k => (ds.reverse, k)

/-- Up to sixteen places before the point and five after it are written out; else one digit stands
before the point and an exponent follows. -/
def layout (digits : List Char) (scale : Int) : List Char :=
  let point := digits.length + scale
  if 0 ≤ scale ∧ point ≤ 16 then digits ++ List.replicate scale.toNat '0' ++ ['.', '0']
  else if 0 < point ∧ point ≤ 16 then
    digits.take point.toNat ++ ['.'] ++ digits.drop point.toNat
  else if -5 < point ∧ point ≤ 0 then
    ['0', '.'] ++ List.replicate (-point).toNat '0' ++ digits
  else
    let mantissa := match digits with
      | d :: e :: rest => d :: '.' :: e :: rest
      | ds => ds
    let exponent := point - 1
    let sign := if exponent < 0 then ['-'] else []
    mantissa ++ ['e'] ++ sign ++ Nat.toDigits 10 exponent.natAbs

/-- The text of a double. -/
def text (x : Binary64) : List Char :=
  let sign := if x.negative then ['-'] else []
  if x.code = 0 then sign ++ ['0', '.', '0']
  else
    let (digits, scale) := shortest x.code
    let (ds, k) := trimZeros (Nat.toDigits 10 digits).reverse scale
    sign ++ layout ds k

end Binary64

end EthRpc
