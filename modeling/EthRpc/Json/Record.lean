-- SUMMARY: Reading records from source trees: named fields, leaves of a given kind.
import EthRpc.Json.Source

/-!
# Records

A record is written as an object or, with its fields in their declared order, as
an array. In an object unknown members are ignored and a known one stands at
most once; an array may stop early but not go on. What a missing field means is
for the record to say.
-/

namespace EthRpc.Json.Source

/-- The members of an object that bear a name, all of which must be text. -/
def named? (name : String) (members : List (Option String × Source)) : List Source :=
  (members.filter fun m => m.1 == some name).map (·.2)

/-- The sources of the named fields of a record, in the order of the names. -/
def fields? (names : List String) : Source → Option (List (Option Source))
  | .object members =>
    if members.any (·.1.isNone) then none
    else names.mapM fun name =>
      match named? name members with
      | [] => some none
      | [s] => some (some s)
      | _ => none
  | .array items =>
    if names.length < items.length then none
    else some (items.map some ++ List.replicate (names.length - items.length) none)
  | _ => none

/-! ## Leaves -/

def string? : Source → Option String
  | .string s => s
  | _ => none

def bool? : Source → Option Bool
  | .bool b => some b
  | _ => none

/-- A whole number below `2 ^ 64`. -/
def nat? : Source → Option Nat
  | .number (some (.whole n)) => below64? n
  | _ => none

/-- A whole number from `-2 ^ 63` to `2 ^ 63 - 1`. -/
def int? : Source → Option Int
  | .number (some n) => (Json.number n).int?
  | _ => none

/-- Something that may be `null` instead. -/
def optional? (read : Source → Option α) : Source → Option (Option α)
  | .null => some none
  | s => (read s).map some

/-- A list of values nested at most `depth` deep, the list included. -/
def values? (depth : Nat) : Source → Option (List Json)
  | .array items => if depth = 0 then none else items? (depth - 1) items
  | _ => none

end EthRpc.Json.Source
