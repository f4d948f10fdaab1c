-- SUMMARY: Names in the letters, digits and hyphens that stand for them on the wire.
import EthRpc.Url.Name.Direction
import EthRpc.Url.Name.Joining
import EthRpc.Url.Name.Mapping
import EthRpc.Url.Punycode

/-!
# Names in ASCII

A name is brought into its normal form and taken apart at its points. Labels in
ASCII stay as they are and all others are written in Punycode. A label that is
in Punycode already has to stand for a label in normal form. Marks, joiners and
scripts of both directions have to be where a reader can make them out.
-/

namespace EthRpc.Url.Name

/-- What labels in Punycode begin with. -/
def punycodeMark : List Char := ['x', 'n', '-', '-']

def isAscii (cs : List Char) : Bool := cs.all (·.toNat < 128)

/-- The normal form of a name, if all its characters can be in names. -/
def normal? (cs : List Char) : Option (List Char) :=
  if isAscii cs then some (cs.map Char.toLower)
  else (cs.mapM mapChar?).map fun pieces => Text.compose pieces.flatten

/-- A text is in normal form. -/
def isNormal (cs : List Char) : Bool :=
  cs.all (fate · = .kept) && Text.compose cs == cs

/-- The most characters of a label that are written in Punycode, and the most that are read. -/
def mostWritten : Nat := 1000

def mostRead : Nat := 2000

/-- What a label in normal form stands for. -/
def meaning? (label : List Char) : Option (List Char) :=
  if punycodeMark.isPrefixOf label then
    let digits := label.drop punycodeMark.length
    if !isAscii label ∨ label.getLast? = some '-' ∨ mostRead < digits.length then none
    else (Punycode.decode? digits).filter isNormal
  else if isAscii label ∨ label.length ≤ mostWritten then some label
  else none

/-- Marks, joiners and directions are in order in all labels. -/
def isOrderly (labels : List (List Char)) : Bool :=
  labels.all isAscii ||
    (labels.all (fun label => isAscii label || arePlaced [] label) && areClear labels)

/-- A label in ASCII. -/
def asciiLabel (label : List Char) : List Char :=
  if isAscii label then label else punycodeMark ++ Punycode.encode label

/-- A name in ASCII. -/
def ascii? (name : List Char) : Option (List Char) := do
  let labels := (← normal? name).splitOn '.'
  let meanings ← labels.mapM meaning?
  if isOrderly meanings then some (((labels.map asciiLabel).intersperse ['.']).flatten) else none

end EthRpc.Url.Name
