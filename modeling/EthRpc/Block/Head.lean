-- SUMMARY: Heads of the chain and how they are read from blocks.
import EthRpc.Hash32
import EthRpc.Quantity

/-!
# Heads

A head is the number and the hash of the newest block that is known. A node
reports it as part of a block, where the number is a quantity in any of the
loose forms. A head by itself is a record with a plain whole number.
-/

namespace EthRpc

structure BlockHead where
  number : Nat
  hash : Hash32
  deriving DecidableEq

/-- The tracked head moved on. -/
structure HeadChange where
  previous : Option BlockHead
  current : BlockHead
  deriving DecidableEq

namespace BlockHead

def fieldNames : List String := ["number", "hash"]

/-- A quantity as text or as a whole number. -/
def looseNumber? : Json.Source → Option Nat
  | .string s => s.bind Quantity.loose?
  | s => s.nat?

/-- The head that a block reports: both fields must be there and not `null`. -/
def ofBlock? (block : Json) : Option BlockHead :=
  match (Json.Source.ofJson block).fields? fieldNames with
  | some [some number, some hash] => do return ⟨← looseNumber? number, ← Hash32.ofSource? hash⟩
  | _ => none

/-- A head that stands by itself. -/
def ofSource? (s : Json.Source) : Option BlockHead :=
  match s.fields? fieldNames with
  | some [some number, some hash] => do return ⟨← number.nat?, ← Hash32.ofSource? hash⟩
  | _ => none

def toJson (h : BlockHead) : Json :=
  .ofMembers [("number", .ofNat h.number), ("hash", .string h.hash.text)]

end BlockHead

end EthRpc
