-- SUMMARY: References to blocks in request parameters.
import EthRpc.Hash32
import EthRpc.Quantity

/-!
# Block references

A request names a block by a tag, a number or a hash. Numbers and hashes always
mean the same block; a tag means another block as the chain grows.

* A text of 66 bytes that starts with `0x` is a hash or nothing.
* Any other text is a tag, in any letter case, or a quantity.
* A whole number is a block number.
* An object is its `blockHash`, if it has one, and else its `blockNumber`, read
  by these same rules.
-/

namespace EthRpc

inductive BlockTag where
  | latest | earliest | pending | safe | finalized
  deriving DecidableEq

namespace BlockTag

def text : BlockTag → String
  | latest => "latest"
  | earliest => "earliest"
  | pending => "pending"
  | safe => "safe"
  | finalized => "finalized"

/-- A tag in lower case. -/
def ofText? (s : String) : Option BlockTag :=
  [latest, earliest, pending, safe, finalized].find? (·.text == s)

end BlockTag

inductive BlockRef where
  | tag (t : BlockTag)
  | number (n : Nat)
  | hash (h : Hash32)
  deriving DecidableEq

namespace BlockRef

/-- A tag or a number. No letter outside ASCII has a lower case form that occurs in either. -/
def tagOrNumber? (s : String) : Option BlockRef :=
  let lower := String.ofList (s.toList.map Char.toLower)
  match BlockTag.ofText? lower with
  | some t => some (.tag t)
  | none => (Quantity.strict? lower).map .number

/-- The length and the beginning that only a hash has. -/
def looksLikeHash (s : String) : Bool :=
  s.utf8ByteSize == 66 && s.toList.take 2 == ['0', 'x']

def ofText? (s : String) : Option BlockRef :=
  if looksLikeHash s then (Hash32.ofText? s).map .hash else tagOrNumber? s

mutual

/-- The block that a parameter refers to. -/
def ofJson? : Json → Option BlockRef
  | .string s => ofText? s
  | .number (.whole n) => (below64? n).map .number
  | .object members =>
    match Dict.get? "blockHash" members with
    | some (.string h) => (Hash32.ofText? h).map .hash
    | some _ => none
    | none => ofNumberMember? members
  | _ => none

/-- The reference in the member `blockNumber`. -/
def ofNumberMember? : List (String × Json) → Option BlockRef
  | [] => none
  | (name, v) :: rest => if name = "blockNumber" then ofJson? v else ofNumberMember? rest

end

/-- The number of a block that is named by number. -/
def number? : BlockRef → Option Nat
  | number n => some n
  | _ => none

/-- The reference means the same block for ever. -/
def isConcrete : BlockRef → Bool
  | tag _ => false
  | number _ | hash _ => true

/-- The parameter that names a block by its number. -/
def numberParam (n : Nat) : Json := .string (Quantity.text n)

end BlockRef

end EthRpc
