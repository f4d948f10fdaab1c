-- SUMMARY: Block numbers as text: the canonical form and the two ways of reading one.
import EthRpc.Digits

/-!
# Quantities

A quantity is a number below `2 ^ 64`. It is written as `0x` and its shortest
lower case hexadecimal digits. Two readers accept it. The strict one wants digits
after `0x`, in either case, and takes one plus sign before them. The loose one,
for blocks that nodes report, tells the base from the text, skips underscores
and reads no digits as zero, but takes no sign.
-/

namespace EthRpc.Quantity

/-- The canonical text of a number. -/
def text (n : Nat) : String := String.ofList ('0' :: 'x' :: Nat.toDigits 16 n)

/-- Hexadecimal digits, at least one, after an optional plus sign. -/
def hex? (cs : List Char) : Option Nat :=
  match cs with
  | '+' :: c :: rest => digits (c :: rest)
  | '+' :: [] => none
  | c :: rest => digits (c :: rest)
  | [] => none
where
  digits (cs : List Char) : Option Nat := (readDigits? 16 0 cs).bind below64?

/-- The strict reader: `0x` and hexadecimal digits. -/
def strict? (s : String) : Option Nat :=
  match s.toList with
  | '0' :: 'x' :: rest => hex? rest
  | _ => none

/-- The base that a text announces, and its digits. -/
def base : List Char → Nat × List Char
  | '0' :: 'x' :: rest | '0' :: 'X' :: rest => (16, rest)
  | '0' :: 'o' :: rest | '0' :: 'O' :: rest => (8, rest)
  | '0' :: 'b' :: rest | '0' :: 'B' :: rest => (2, rest)
  | cs => (10, cs)

/-- The loose reader: a number in the base that its text announces. -/
def loose? (s : String) : Option Nat :=
  let (b, digits) := base s.toList
  (readDigits? b 0 (digits.filter (· ≠ '_'))).bind below64?

end EthRpc.Quantity
