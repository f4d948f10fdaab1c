-- SUMMARY: Properties of characters, written down as runs of characters that share them.

/-!
# Runs of characters

A property that divides all characters into kinds is given by the lengths of the
runs of characters of one kind, from the first character on. A run is written as
its length and a letter for its kind, and all characters after the last run are
of one more kind.
-/

namespace EthRpc.Text

/-- The lengths and kinds of runs. -/
abbrev Runs := List (Nat × Char)

namespace Runs

/-- Read runs off a text; `length` is what the digits before say. -/
def readFrom (length : Nat) : List Char → Runs
  | [] => []
  | c :: cs =>
    if c.isDigit then readFrom (10 * length + (c.toNat - 48)) cs
    else (length, c) :: readFrom 0 cs

/-- The runs that lines of text describe together. -/
def ofLines (lines : List String) : Runs := readFrom 0 (lines.flatMap String.toList)

/-- The kind at a position, which is `rest` after the last run. -/
def kindAt (rest : Char) : Runs → Nat → Char
  | [], _ => rest
  | (n, kind) :: runs, position =>
    if position < n then kind else kindAt rest runs (position - n)

/-- The kind of a character. -/
def kind (rest : Char) (runs : Runs) (c : Char) : Char := runs.kindAt rest c.toNat

end Runs

end EthRpc.Text
