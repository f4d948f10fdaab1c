-- SUMMARY: JSON values with three kinds of number and objects in key order.
import EthRpc.Binary64
import EthRpc.Dict

/-!
# JSON values

A number keeps the kind its text had: a whole number below `2 ^ 64`, a negative
whole number down to `-2 ^ 63`, or a double. Objects are dictionaries, so a
value has one representation and printing it is unambiguous.
-/

namespace EthRpc

namespace Json

inductive Number where
  | whole (n : Nat)
  /-- The number `-n`, where `n` is positive. -/
  | negative (n : Nat)
  | double (x : Binary64)
  deriving DecidableEq

end Json

inductive Json where
  | null
  | bool (b : Bool)
  | number (n : Json.Number)
  | string (s : String)
  | array (items : List Json)
  | object (members : List (String × Json))

namespace Json

instance : Inhabited Json := ⟨.null⟩

/-- A whole number as a value. -/
def ofNat (n : Nat) : Json := .number (.whole n)

/-- A whole number of either sign as a value. -/
def ofInt : Int → Json
  | .ofNat n => .number (.whole n)
  | .negSucc n => .number (.negative (n + 1))

/-- An optional value, absent as `null`. -/
def ofOption (f : α → Json) : Option α → Json
  | none => .null
  | some a => f a

/-- An object from its members; a later one replaces an earlier one of the same name. -/
def ofMembers (members : List (String × Json)) : Json := .object (Dict.ofList members)

/-! ## Views -/

/-- The member of an object; other values have none. -/
def get? (name : String) : Json → Option Json
  | .object members => Dict.get? name members
  | _ => none

def string? : Json → Option String
  | .string s => some s
  | _ => none

/-- A whole number below `2 ^ 64`. -/
def nat? : Json → Option Nat
  | .number (.whole n) => some n
  | _ => none

/-- A whole number from `-2 ^ 63` to `2 ^ 63 - 1`. -/
def int? : Json → Option Int
  | .number (.whole n) => if n < 1 <<< 63 then some n else none
  | .number (.negative n) => some (-n)
  | _ => none

def bool? : Json → Option Bool
  | .bool b => some b
  | _ => none

def array? : Json → Option (List Json)
  | .array items => some items
  | _ => none

def isNull : Json → Bool
  | .null => true
  | _ => false

def isObject : Json → Bool
  | .object _ => true
  | _ => false

end Json

end EthRpc
