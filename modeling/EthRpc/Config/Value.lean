-- SUMMARY: Values in configurations, and how freely they are read as numbers and text.
import EthRpc.Digits
import EthRpc.Json.Basic
import EthRpc.Text.Lowercase

/-!
# Configuration values

A configuration is a dictionary of values. Where a number is wanted, truth values
and the usual words for them, fractions and decimal text will do; where text is
wanted, a number or a truth value will. Lists and tables are neither. A value
laid over another hides it, but tables are laid over each other entry by entry.
-/

namespace EthRpc

namespace Config

inductive Value where
  | nothing
  | text (s : String)
  | whole (n : Int)
  | double (x : Binary64)
  | infinite (negative : Bool)
  | notANumber
  | flag (b : Bool)
  /-- A list by its length and those of its items that are known; the others are nothing. -/
  | list (items : List (Nat × Value)) (length : Nat)
  | table (members : List (String × Value))

instance : Inhabited Value := ⟨.nothing⟩

/-- The digits of a double with a point only where it is needed, and never an exponent. -/
def plainText (x : Binary64) : List Char :=
  let sign := if x.negative then ['-'] else []
  if x.code = 0 then sign ++ ['0']
  else
    let (digits, scale) := Binary64.shortest x.code
    let (ds, k) := Binary64.trimZeros (Nat.toDigits 10 digits).reverse scale
    let point := ds.length + k
    sign ++
      if 0 ≤ k then ds ++ List.replicate k.toNat '0'
      else if 0 < point then ds.take point.toNat ++ ['.'] ++ ds.drop point.toNat
      else ['0', '.'] ++ List.replicate (-point).toNat '0' ++ ds

/-- The nearest whole number, a half away from zero. -/
def roundUp (code : Nat) : Nat := (2 * Binary64.units code + 1 <<< 1074) >>> 1075

namespace Value

/-- A decimal number below `2 ^ 64`, which may have a plus sign. -/
def decimal? (s : String) : Option Nat :=
  (match s.toList with
    | '+' :: rest => readDecimal? rest
    | cs => readDecimal? cs).bind below64?

/-- A number from 0 to `2 ^ 64 - 1`; fractions are rounded and brought into this range. -/
def nat? : Value → Option Nat
  | whole n => if 0 ≤ n then below64? n.toNat else none
  | flag b => some b.toNat
  | double x => some (if x.negative then 0 else min (roundUp x.code) (1 <<< 64 - 1))
  | infinite negative => some (if negative then 0 else 1 <<< 64 - 1)
  | notANumber => some 0
  | text s =>
    let word := Text.lowercase s
    if ["true", "on", "yes"].contains word then some 1
    else if ["false", "off", "no"].contains word then some 0
    else decimal? s
  | nothing | list .. | table _ => none

def text? : Value → Option String
  | text s => some s
  | whole n => some (toString n)
  | flag b => some (if b then "true" else "false")
  | double x => some (String.ofList (plainText x))
  | infinite negative => some (if negative then "-inf" else "inf")
  | notANumber => some "NaN"
  | nothing | list .. | table _ => none

/-- A list of known items. -/
def ofItems (items : List Value) : Value :=
  .list (items.zipIdx.map fun (v, i) => (i, v)) items.length

/-- A whole number, or the double nearest to it if it is `2 ^ 63` or more. -/
def ofNat (n : Nat) : Value :=
  if n < 1 <<< 63 then whole n else double ⟨false, Binary64.ofNat n⟩

mutual

def ofJson : Json → Value
  | .null => nothing
  | .bool b => flag b
  | .string s => text s
  | .number (.whole n) => ofNat n
  | .number (.negative n) => whole (-n)
  | .number (.double x) => double x
  | .array items => ofItems (ofJsonItems items)
  | .object members => table (ofJsonMembers members)

def ofJsonItems : List Json → List Value
  | [] => []
  | v :: vs => ofJson v :: ofJsonItems vs

def ofJsonMembers : List (String × Json) → List (String × Value)
  | [] => []
  | (name, v) :: rest => (name, ofJson v) :: ofJsonMembers rest

end

/-! ## Layers -/

mutual

/-- What shows when a value is laid over another. -/
def laidOver : Value → Option Value → Value
  | .table members, below => membersOver members (below.getD (.table []))
  | v, _ => v

/-- What shows when the entries of a table are laid over a value. -/
def membersOver : List (String × Value) → Value → Value
  | [], below => below
  | (name, v) :: rest, below =>
    let entries : Dict Value := match below with
      | .table entries => entries
      | _ => []
    membersOver rest (.table (entries.insert name (laidOver v (entries.get? name))))

end

end Value

end Config

abbrev Config := Dict Config.Value

end EthRpc
