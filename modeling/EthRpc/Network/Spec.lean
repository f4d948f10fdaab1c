-- SUMMARY: Networks: their names, chain ids and endpoints.
import EthRpc.Json.Record
import EthRpc.Quantity
import EthRpc.Url.Parser

/-!
# Networks
-/

namespace EthRpc

structure Network where
  name : String
  chainId : Nat
  /-- Where the endpoint listens. -/
  endpoint : Url
  deriving DecidableEq

namespace Network

/-- A network has all three fields. -/
def ofSource? (s : Json.Source) : Option Network :=
  match s.fields? ["name", "chain_id", "rpc_url"] with
  | some [some name, some chainId, some endpoint] => do
    return ⟨← name.string?, ← chainId.nat?, ← Url.parse? (← endpoint.string?)⟩
  | _ => none

def parse? (text : String) : Option Network := (Json.Source.parse? text).bind ofSource?

/-- The chain id as nodes report it. -/
def chainIdText (n : Network) : String := Quantity.text n.chainId

def toJson (n : Network) : Json :=
  .ofMembers [("name", .string n.name), ("chain_id", .ofNat n.chainId),
    ("rpc_url", .string n.endpoint.text)]

end Network

end EthRpc
