-- SUMMARY: Letters, digits and hyphens for names with other characters in them, and back.

/-!
# Punycode

A label is written as its plain characters, a hyphen, and a run of digits in base
36 that says which other characters go where: they come in ascending order, each
as the distance from the one before, and the number of digits adapts to the size
of the distances so far.
-/

namespace EthRpc.Url.Punycode

/-- Letters come before digits. -/
def digit (d : Nat) : Char := if d < 26 then Char.ofNat (97 + d) else Char.ofNat (22 + d)

/-- How large the digit at position `k` has to be to stand for more than itself. -/
def threshold (k bias : Nat) : Nat :=
  if k ≤ bias then 1 else if bias + 26 ≤ k then 26 else k - bias

theorem threshold_pos (k bias : Nat) : 1 ≤ threshold k bias := by
  unfold threshold; split <;> (try split) <;> omega

/-- A distance in digits of growing weight. -/
def digits (bias k q : Nat) : List Char :=
  let t := threshold k bias
  if q < t then [digit q]
  else digit (t + (q - t) % (36 - t)) :: digits bias (k + 36) ((q - t) / (36 - t))
termination_by q
decreasing_by
  have h := threshold_pos k bias
  exact Nat.lt_of_le_of_lt (Nat.div_le_self _ _) (by omega)

/-- Bring a distance below 456, counting the steps. -/
def scaleDown (delta k : Nat) : Nat × Nat :=
  if 455 < delta then scaleDown (delta / 35) (k + 36) else (delta, k)
termination_by delta
decreasing_by exact Nat.div_lt_self (by omega) (by omega)

/-- The bias after a distance, of which `count` were written with it. -/
def adapt (delta count : Nat) (first : Bool) : Nat :=
  let d := if first then delta / 700 else delta / 2
  let (d, k) := scaleDown (d + d / count) 0
  k + 36 * d / (d + 38)

structure State where
  written : List Char
  delta : Nat
  bias : Nat
  /-- How many characters were handled. -/
  handled : Nat

/-- Look at a character of the label while those with the code `code` are written. -/
def visit (plain code : Nat) (s : State) (c : Char) : State :=
  if c.toNat < code then { s with delta := s.delta + 1 }
  else if c.toNat = code then
    { written := s.written ++ digits s.bias 36 s.delta
      delta := 0
      bias := adapt s.delta (s.handled + 1) (s.handled = plain)
      handled := s.handled + 1 }
  else s

/-- The label without its mark `xn--`. -/
def encode (label : List Char) : List Char :=
  let plain := label.filter (·.toNat < 128)
  let codes := ((label.map Char.toNat).filter (128 ≤ ·)).mergeSort.eraseDups
  let start : State := ⟨plain ++ (if plain.isEmpty then [] else ['-']), 0, 72, plain.length⟩
  let step (acc : Nat × State) (code : Nat) : Nat × State :=
    let s := { acc.2 with delta := acc.2.delta + (code - acc.1) * (acc.2.handled + 1) }
    let s := label.foldl (visit plain.length code) s
    (code + 1, { s with delta := s.delta + 1 })
  (codes.foldl step (128, start)).2.written

/-! ## Reading -/

/-- The value of a digit in either case. -/
def digitValue? (c : Char) : Option Nat :=
  if 'a' ≤ c ∧ c ≤ 'z' then some (c.toNat - 97)
  else if 'A' ≤ c ∧ c ≤ 'Z' then some (c.toNat - 65)
  else if '0' ≤ c ∧ c ≤ '9' then some (c.toNat - 22)
  else none

/-- How far the digits of a label have been read. -/
structure Reading where
  /-- The characters that are in their places. -/
  text : List Char
  /-- The code of the last character that was put in its place. -/
  code : Nat := 128
  /-- The distance so far, counted from that place, and where its first digit began. -/
  distance : Nat := 0
  start : Nat := 0
  bias : Nat := 72
  /-- The position and the weight of the next digit. -/
  position : Nat := 36
  weight : Nat := 1

/-- Distances and weights stay below `2 ^ 32`. -/
def bound : Nat := 1 <<< 32

/-- Take a digit; the last one of a distance puts a character in its place. -/
def Reading.take? (r : Reading) (c : Char) : Option Reading := do
  let d ← digitValue? c
  let t := threshold r.position r.bias
  let distance := r.distance + d * r.weight
  if bound ≤ distance then none
  else if t ≤ d then
    if bound ≤ r.weight * (36 - t) then none
    else some { r with distance, position := r.position + 36, weight := r.weight * (36 - t) }
  else
    let count := r.text.length + 1
    let code := r.code + distance / count
    let place := distance % count
    if h : code.isValidChar then
      some {
        text := r.text.insertIdx place (Char.ofNatAux code h)
        code
        distance := place + 1
        start := place + 1
        bias := adapt (distance - r.start) count (r.start = 0) }
    else none

/-- The plain characters of a label without its mark, and its digits, with a hyphen between them. -/
def parts (label : List Char) : List Char × List Char :=
  let digits := (label.reverse.takeWhile (· ≠ '-')).reverse
  let plain := label.take (label.length - digits.length - 1)
  if plain = [] then ([], label) else (plain, digits)

/-- The label that is written so, without its mark. -/
def decode? (label : List Char) : Option (List Char) := do
  let (plain, digits) := parts label
  let r ← digits.foldlM Reading.take? { text := plain }
  if r.position = 36 then some r.text else none

end EthRpc.Url.Punycode
