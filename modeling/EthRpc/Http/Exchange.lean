-- SUMMARY: What comes of sending a request to an endpoint over HTTP.
import EthRpc.Rpc.Response
import EthRpc.Text.Utf8

/-!
# Exchanges

An exchange brings a reply with a status and a body, or none because there is no
connection or it breaks off, or because it takes too long. Only a reply whose
status is a success is read as a response.
-/

namespace EthRpc.Http

inductive Exchange where
  /-- No connection, or one that broke off. -/
  | broken (detail : String)
  /-- No reply in time. -/
  | late
  | reply (status : Nat) (body : List UInt8)

def isSuccess (status : Nat) : Bool := 200 ≤ status && status < 300

/-- What the exchange means to who asked. -/
def Exchange.outcome : Exchange → Outcome
  | broken detail => .error (.transport detail)
  | late => .error .timeout
  | reply status body =>
    let text := Text.ofBytes body
    if isSuccess status then Response.parse text else .error (.http status text)

end EthRpc.Http
