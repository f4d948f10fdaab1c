-- SUMMARY: Responses on the wire: written from outcomes, read back as outcomes.
import EthRpc.Rpc.Error
import EthRpc.Rpc.Request

/-!
# Responses

A response carries a result or an error object. It is written with its members
in the order `jsonrpc`, `id`, `result`, `error`, leaving out what it lacks. A
reader looks at the error first, takes a `null` error for none, and then wants a
result, which may be `null`.
-/

namespace EthRpc

structure Response where
  id : RequestId
  result : Option Json
  error : Option ErrorObject

namespace Response

def ofOutcome (id : RequestId) : Outcome → Response
  | .ok value => ⟨id, some value, none⟩
  | .error e => ⟨id, none, some e.toObject⟩

/-- An error wins over a result, and neither is a `null` result. -/
def outcome (r : Response) : Except ErrorObject Json :=
  match r.error, r.result with
  | some e, _ => .error e
  | none, some value => .ok value
  | none, none => .ok .null

/-- The response with its members in the order of the wire. -/
def wireValue (r : Response) : Json :=
  .object ([("jsonrpc", .string "2.0"), ("id", r.id.toJson)]
    ++ (r.result.map fun v => ("result", v)).toList
    ++ (r.error.map fun e => ("error", Json.object e.members)).toList)

/-- The response as it is sent. -/
def wire (r : Response) : String := r.wireValue.compact

def toJson (r : Response) : Json :=
  .ofMembers ([("jsonrpc", .string "2.0"), ("id", r.id.toJson)]
    ++ (r.result.map fun v => ("result", v)).toList
    ++ (r.error.map fun e => ("error", e.toJson)).toList)

/-- What a response body says, seen from the request. -/
def parse (body : String) : Outcome :=
  match Json.parse? body with
  | some (.object members) =>
    match (Dict.get? "error" members).filter (!·.isNull) with
    | some e =>
      match ErrorObject.ofSource? (Json.depthLimit + 1) (.ofJson e) with
      | some object => .error (.protocol object)
      | none => .error (.malformed "invalid error object: unexpected value")
    | none =>
      match Dict.get? "result" members with
      | some value => .ok value
      | none => .error (.malformed "response has neither result nor error")
  | _ => .error (.malformed "expected a JSON object")

end Response

end EthRpc
