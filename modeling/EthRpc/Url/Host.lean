-- SUMMARY: Hosts of URLs: names, the two kinds of address, and opaque texts.
import EthRpc.Digits
import EthRpc.Url.Name.Ascii
import EthRpc.Url.Percent

/-!
# Hosts

Names are in normal form and in ASCII. A name whose last label is a number is an address of four bytes, in
any of its old spellings. An address of eight groups stands in brackets and is
written without its longest run of zeros. Schemes that are not common take
almost any text for a host.
-/

namespace EthRpc.Url

inductive Host where
  | name (labels : String)
  | v4 (address : Nat)
  | v6 (groups : List Nat)
  | opaqueText (text : String)
  deriving DecidableEq

namespace Host

/-! ## Addresses of four bytes -/

/-- A number in the base that its spelling announces; no digits are zero after `0x`. -/
def v4Number? : List Char → Option Nat
  | [] => none
  | '0' :: 'x' :: rest | '0' :: 'X' :: rest => readDigits? 16 0 rest
  | '0' :: c :: rest => readDigits? 8 0 (c :: rest)
  | cs => readDigits? 10 0 cs

/-- The labels of a name, without an empty one at the end. -/
def v4Parts (cs : List Char) : List (List Char) :=
  let parts := cs.splitOn '.'
  if 1 < parts.length ∧ parts.getLast? = some [] then parts.dropLast else parts

/-- The last label is a number, so the whole name has to be an address. -/
def endsInNumber (cs : List Char) : Bool :=
  match (v4Parts cs).getLast? with
  | none => false
  | some part => (part ≠ [] && part.all Char.isDigit) ||
    (match part with
      | '0' :: 'x' :: _ | '0' :: 'X' :: _ => (v4Number? part).isSome
      | _ => false)

/-- The last number fills all bytes that the others leave. -/
def v4? (cs : List Char) : Option Nat := do
  let numbers ← (v4Parts cs).mapM v4Number?
  let last ← numbers.getLast?
  let front := numbers.dropLast
  if 3 < front.length ∨ front.any (255 < ·) ∨ 1 <<< (8 * (4 - front.length)) ≤ last then none
  else
    some (front.zipIdx.foldl (fun sum (n, i) => sum + n <<< (8 * (3 - i))) last)

def v4Text (address : Nat) : String :=
  String.intercalate "." ([3, 2, 1, 0].map fun i => toString (address >>> (8 * i) % 256))

/-! ## Addresses of eight groups -/

/-- Four decimal numbers below 256 without needless zeros, as two groups. -/
def embeddedV4? (cs : List Char) : Option (List Nat) := do
  let parts := cs.splitOn '.'
  let numbers ← parts.mapM fun part =>
    if part.length = 0 ∨ 3 < part.length ∨ (1 < part.length ∧ part.head? = some '0') then none
    else (readDigits? 10 0 part).filter (· ≤ 255)
  match numbers with
  | [a, b, c, d] => some [256 * a + b, 256 * c + d]
  | _ => none

/-- The groups of a text without `::`; only the last piece may be an address of four bytes. -/
def groups? (cs : List Char) : Option (List Nat) :=
  if cs = [] then some []
  else
    let pieces := cs.splitOn ':'
    let group? (piece : List Char) : Option (List Nat) :=
      if piece = [] ∨ 4 < piece.length then none else (readDigits? 16 0 piece).map ([·])
    let last? (piece : List Char) : Option (List Nat) :=
      if '.' ∈ piece then embeddedV4? piece else group? piece
    match pieces.getLast? with
    | none => none
    | some last => do
      let front ← pieces.dropLast.mapM group?
      return front.flatten ++ (← last? last)

/-- What stands before and after the first `::`. -/
def splitElision : List Char → Option (List Char × List Char)
  | ':' :: ':' :: rest => some ([], rest)
  | c :: rest => (splitElision rest).map fun (front, back) => (c :: front, back)
  | [] => none

/-- Eight groups, or fewer around `::`, which stands for at least one group of zeros. -/
def v6? (cs : List Char) : Option (List Nat) :=
  match splitElision cs with
  | none => (groups? cs).filter (·.length = 8)
  | some (front, back) => do
    let a ← if '.' ∈ front then none else groups? front
    let b ← groups? back
    if 7 < a.length + b.length then none
    else some (a ++ List.replicate (8 - a.length - b.length) 0 ++ b)

/-- The length of the run of zeros at the front. -/
def zeroRun (groups : List Nat) : Nat := (groups.takeWhile (· = 0)).length

/-- Where the longest run of at least two zeros starts and how long it is; of several the first. -/
def longestZeros (groups : List Nat) : Option (Nat × Nat) :=
  let runs := (List.range groups.length).map fun i => (i, zeroRun (groups.drop i))
  let best := runs.foldl (fun best run => if best.2 < run.2 then run else best) (0, 0)
  if 2 ≤ best.2 then some best else none

def groupsText (groups : List Nat) : String :=
  String.intercalate ":" (groups.map fun g => String.ofList (Nat.toDigits 16 g))

def v6Text (groups : List Nat) : String :=
  match longestZeros groups with
  | none => groupsText groups
  | some (start, length) =>
    groupsText (groups.take start) ++ "::" ++ groupsText (groups.drop (start + length))

/-! ## Names and other texts -/

def forbiddenInText : List Char :=
  ['\x00', '\t', '\n', '\r', ' ', '#', '/', ':', '<', '>', '?', '@', '[', '\\', ']', '^', '|']

def isForbiddenInName (c : Char) : Bool :=
  c.toNat ≤ 0x1f || c = '%' || c = '\x7f' || forbiddenInText.contains c

/-- The host after a common scheme. -/
def ofName? (cs : List Char) : Option Host := do
  let text ← String.fromUTF8? ⟨(percentDecode cs).toArray⟩
  let ascii ← Name.ascii? text.toList
  if ascii = [] ∨ ascii.any isForbiddenInName then none
  else if endsInNumber ascii then (v4? ascii).map .v4
  else some (.name (String.ofList ascii))

/-- The host of a URL, which is in brackets, a name, or with other than common schemes any text. -/
def parse? (common : Bool) (cs : List Char) : Option Host :=
  match cs with
  | '[' :: rest =>
    if rest.getLast? = some ']' then (v6? rest.dropLast).map .v6 else none
  | _ =>
    if common then ofName? cs
    else if cs.any forbiddenInText.contains then none
    else some (.opaqueText (String.ofList (percentEncode [] cs)))

def text : Host → String
  | name labels => labels
  | v4 address => v4Text address
  | v6 groups => "[" ++ v6Text groups ++ "]"
  | opaqueText t => t

end Host

end EthRpc.Url
