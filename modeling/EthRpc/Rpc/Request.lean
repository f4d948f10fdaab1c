-- SUMMARY: Requests, their ids and their parameters.
import EthRpc.Json.Printer
import EthRpc.Json.Record

/-!
# Requests
-/

namespace EthRpc

/-- What a caller tells its requests apart by. -/
inductive RequestId where
  | number (n : Nat)
  | string (s : String)
  | none
  deriving DecidableEq

namespace RequestId

def toJson : RequestId → Json
  | number n => .ofNat n
  | string s => .string s
  | none => .null

def ofSource? : Json.Source → Option RequestId
  | .null => some .none
  | .string s => s.map .string
  | s => s.nat?.map .number

def ofJson? (v : Json) : Option RequestId := ofSource? (.ofJson v)

def text : RequestId → String
  | number n => toString n
  | string s => s
  | none => "null"

end RequestId

structure Request where
  id : RequestId
  method : String
  params : List Json

namespace Request

def param? (q : Request) (index : Nat) : Option Json := q.params[index]?

/-- The request with a parameter replaced, or appended if it is the next one; a gap is impossible. -/
def withParam? (q : Request) (index : Nat) (value : Json) : Option Request :=
  if index < q.params.length then some { q with params := q.params.set index value }
  else if index = q.params.length then some { q with params := q.params ++ [value] }
  else none

/-- Method and parameters in one text, by which equal requests are recognised. -/
def fingerprint (q : Request) : String := q.method ++ ":" ++ (Json.array q.params).compact

/-- The parameters of a request may be left out. -/
def ofSource? (s : Json.Source) : Option Request :=
  match s.fields? ["id", "method", "params"] with
  | some [some id, some method, params] => do
    let values ← match params with
      | none => some []
      | some p => p.values? (Json.depthLimit - 1)
    return ⟨← RequestId.ofSource? id, ← method.string?, values⟩
  | _ => none

def toJson (q : Request) : Json :=
  .ofMembers [("id", q.id.toJson), ("method", .string q.method), ("params", .array q.params)]

/-- The request as it is sent, with its members in the order of the wire. -/
def wire (q : Request) : String :=
  (Json.object [("jsonrpc", .string "2.0"), ("id", q.id.toJson), ("method", .string q.method),
    ("params", .array q.params)]).compact

end Request

end EthRpc
