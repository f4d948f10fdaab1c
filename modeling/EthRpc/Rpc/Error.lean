-- SUMMARY: What can go wrong with a request, in words and as a protocol error object.
import EthRpc.Json.Printer
import EthRpc.Json.Record

/-!
# Errors

An error object is the protocol's own way of saying no. Every other failure
arises on the way; told to a caller it becomes an error object too, with a
wording of its own for the statuses that hosted endpoints use.
-/

namespace EthRpc

structure ErrorObject where
  code : Int
  message : String
  data : Option Json

namespace ErrorObject

/-- An error object, whose data nest at most `depth` deep. -/
def ofSource? (depth : Nat) (s : Json.Source) : Option ErrorObject :=
  match s.fields? ["code", "message", "data"] with
  | some [some code, some message, data] => do
    let data ← match data with
      | none => some none
      | some d => d.optional? (Json.Source.value? (depth - 1))
    return ⟨← code.int?, ← message.string?, data⟩
  | _ => none

/-- The members of an error object in the order of the wire. -/
def members (e : ErrorObject) : List (String × Json) :=
  [("code", .ofInt e.code), ("message", .string e.message)] ++
    match e.data with
    | none => []
    | some d => [("data", d)]

def toJson (e : ErrorObject) : Json := .ofMembers e.members

def text (e : ErrorObject) : String := "rpc error " ++ toString e.code ++ ": " ++ e.message

end ErrorObject

inductive RpcError where
  /-- The endpoint answered with an error object. -/
  | protocol (object : ErrorObject)
  /-- The endpoint answered with a status that is no success. -/
  | http (status : Nat) (body : String)
  | transport (detail : String)
  | timeout
  /-- The endpoint answered with something that is no response. -/
  | malformed (detail : String)
  | internal (detail : String)

namespace RpcError

def message : RpcError → String
  | protocol object => object.text
  | http status body => "http error " ++ toString status ++ ": " ++ body
  | transport detail => "transport error: " ++ detail
  | timeout => "provider request timeout from client side"
  | malformed detail => "malformed response: " ++ detail
  | internal detail => "internal error: " ++ detail

def isProtocol : RpcError → Bool
  | protocol _ => true
  | _ => false

def methodNotFound : Int := -32601

def internalError : Int := -32603

/-- The error as an error object. -/
def toObject : RpcError → ErrorObject
  | protocol object => object
  | http 405 _ => ⟨methodNotFound, "The method does not exist / is not available.", none⟩
  | http 429 _ => ⟨internalError, "Request is being rate limited.", none⟩
  | http 503 _ | http 504 _ =>
    ⟨internalError, "Gateway timeout. The request took too long to process. " ++
      "This can happen when querying logs over too wide a block range.", none⟩
  | other => ⟨internalError, other.message, none⟩

end RpcError

/-- What comes of a request. -/
abbrev Outcome := Except RpcError Json

end EthRpc
