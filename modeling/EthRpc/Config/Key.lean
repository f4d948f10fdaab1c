-- SUMMARY: Keys of configurations, which may lead into tables and lists, and layers of entries.
import EthRpc.Config.Value

/-!
# Keys

The case of a key does not count. A key may lead into a table or a list, by names
after points and positions in brackets; what is missing on the way comes into
being, and what is in the way goes. Positions below zero count from the end of
the list. A key that is not written so is a single name. There is no place before
the first item of a list, nor one beyond what memory can hold.
-/

namespace EthRpc.Config

/-! ## Trails -/

inductive Stride where
  | name (s : String)
  | position (i : Int)
  deriving DecidableEq

def isNameChar (c : Char) : Bool := c.isAlphanum || c = ' ' || c = '_' || c = '-'

def isGap (c : Char) : Bool := c = ' ' || c = '\t'

/-- A whole number from `-2 ^ 63` to `2 ^ 63 - 1` and a closing bracket, and the text after them. -/
def position? (cs : List Char) : Option (Int × List Char) := do
  let cs := cs.dropWhile isGap
  let (negative, cs) := match cs with
    | '-' :: cs => (true, cs)
    | cs => (false, cs)
  let n : Int ← readDecimal? (cs.takeWhile Char.isDigit)
  let i := if negative then -n else n
  match (cs.dropWhile Char.isDigit).dropWhile isGap with
  | ']' :: rest => if -(1 <<< 63 : Nat) ≤ i ∧ i < (1 <<< 63 : Nat) then some (i, rest) else none
  | _ => none

/-- Names after points and positions in brackets; `fuel` is the length of the text. -/
def strides? : (fuel : Nat) → List Char → Option (List Stride)
  | _, [] => some []
  | fuel + 1, '.' :: cs =>
    match cs.takeWhile isNameChar with
    | [] => none
    | name => (strides? fuel (cs.dropWhile isNameChar)).map (.name (String.ofList name) :: ·)
  | fuel + 1, '[' :: cs => do
    let (i, rest) ← position? cs
    return .position i :: (← strides? fuel rest)
  | _, _ => none

/-- Where a key leads, from the whole configuration on. -/
def trail (key : String) : List Stride :=
  let key := Text.lowercase key
  let cs := key.toList
  match cs.takeWhile isNameChar, strides? cs.length (cs.dropWhile isNameChar) with
  | [], _ | _, none => [.name key]
  | name, some strides => .name (String.ofList name) :: strides

/-! ## Places -/

/-- How much memory an item of a list takes. -/
def itemSize : Nat := 96

/-- A position in a list of a length, counted from its start. -/
def index? (length : Nat) : Int → Option Nat
  | .ofNat n => if n < length ∨ (n + 1) * itemSize < 1 <<< 63 then some n else none
  | .negSucc n => if n < length then some (length - (n + 1)) else none

/-- The value after a value was put at the end of a trail, if the trail has an end. -/
def Value.put? (v : Value) : List Stride → Option Value → Option Value
  | [], old => some (v.laidOver old)
  | .name s :: rest, old => do
    let entries : Dict Value := match old with
      | some (.table entries) => entries
      | _ => []
    return .table (entries.insert s (← v.put? rest (entries.get? s)))
  | .position i :: rest, old => do
    let (items, length) := match old with
      | some (.list items length) => (items, length)
      | _ => ([], 0)
    let n ← index? length i
    let item ← v.put? rest (if rest = [] then none else items.lookup n)
    return .list ((n, item) :: items.filter (·.1 ≠ n)) (max length (n + 1))

/-! ## Layers -/

/-- Put a value under a key. -/
def put? (key : String) (v : Value) (c : Config) : Option Config :=
  match v.put? (trail key) (some (.table c)) with
  | some (.table c) => some c
  | _ => none

/-- Lay entries over a configuration. -/
def layer? (top : List (String × Value)) (bottom : Config) : Option Config :=
  top.foldlM (fun c (key, v) => put? key v c) bottom

end EthRpc.Config
