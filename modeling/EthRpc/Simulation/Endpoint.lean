-- SUMMARY: An endpoint that answers by a script and counts what it was asked.
import EthRpc.Block.Head
import EthRpc.Rpc.Error
import EthRpc.Rpc.Request
import EthRpc.Backoff

/-!
# Scripted endpoints

For each method an endpoint has answers to give once, in order, and then one to
give for ever. Head polls have answers of their own and are counted apart. An
answer is chosen when the request arrives and given after the latency; without
one it is there before anybody could wait for it. An endpoint that is down
answers with one error whatever no answer is given for.
-/

namespace EthRpc

namespace Endpoint

/-- Answers to give. -/
structure Supply where
  once : List Outcome := []
  always : Option Outcome := none

namespace Supply

def push (s : Supply) (r : Outcome) : Supply := { s with once := s.once ++ [r] }

def take (s : Supply) : Option Outcome × Supply :=
  match s.once with
  | r :: rest => (some r, { s with once := rest })
  | [] => (s.always, s)

end Supply

/-- What a script changes. -/
inductive Change where
  | set (method : String) (r : Outcome)
  | push (method : String) (r : Outcome)
  | setHead (number : Nat)
  | pushHead (r : Except RpcError Nat)
  /-- The next head poll gets this block at once and is not counted. -/
  | pushBlock (block : Json)
  | setLatency (d : Duration)
  /-- One more request of this method takes its task down. -/
  | crash (method : String)

/-- The answer to a request, `none` if it takes the task down, and how long it is waited for. -/
structure Delivery where
  outcome : Option Outcome
  delay : Option Duration

end Endpoint

open Endpoint in
structure Endpoint where
  methods : Dict Supply := []
  heads : Supply := {}
  /-- Blocks for the next head polls. -/
  blocks : List Json := []
  latency : Option Duration := none
  /-- Methods whose next request takes its task down, as often as that is to happen. -/
  fatal : List String := []
  /-- Requests by method, without head polls. -/
  calls : Dict Nat := []
  headPolls : Nat := 0
  /-- The answer to everything that has no other, if the endpoint is down. -/
  down : Option RpcError := none

namespace Endpoint

/-! ## Blocks -/

/-- The hash of the block of a number: the number itself. -/
def blockHash (number : Nat) : Hash32 := .ofNat number

/-- A block without transactions. -/
def block (number : Nat) : Json :=
  .ofMembers [
    ("number", .string (Quantity.text number)),
    ("hash", .string (blockHash number).text),
    ("parentHash", .string (blockHash (number - 1)).text),
    ("transactions", .array [])]

/-! ## Scripts -/

def supply (e : Endpoint) (method : String) : Supply := (Dict.get? method e.methods).getD {}

def change (e : Endpoint) : Change → Endpoint
  | .set method r =>
    { e with methods := e.methods.insert method { e.supply method with always := some r } }
  | .push method r => { e with methods := e.methods.insert method ((e.supply method).push r) }
  | .setHead number => { e with heads := { e.heads with always := some (.ok (block number)) } }
  | .pushHead r => { e with heads := e.heads.push (r.map block) }
  | .pushBlock block => { e with blocks := e.blocks ++ [block] }
  | .setLatency d => { e with latency := some d }
  | .crash method => { e with fatal := method :: e.fatal }

/-! ## Requests -/

/-- A request for the block that is the latest. -/
def isHeadPoll (q : Request) : Bool :=
  q.method == "eth_getBlockByNumber" && (q.param? 0).bind Json.string? == some "latest"

def noHead : RpcError := .transport "no head scripted"

def unknownMethod (method : String) : RpcError :=
  .protocol ⟨RpcError.methodNotFound,
    "the method " ++ method ++ " does not exist/is not available", none⟩

/-- The answer to a request, whatever its delay. -/
def answer (e : Endpoint) (q : Request) : Outcome × Endpoint :=
  if isHeadPoll q then
    let (r, heads) := e.heads.take
    (r.getD (.error (e.down.getD noHead)), { e with heads := heads, headPolls := e.headPolls + 1 })
  else
    let (r, supply) := (e.supply q.method).take
    (r.getD (.error (e.down.getD (unknownMethod q.method))),
     { e with
        methods := e.methods.insert q.method supply
        calls := Dict.update q.method (fun n => n.getD 0 + 1) e.calls })

/-- What happens to a request that arrives. -/
def receive (e : Endpoint) (q : Request) : Delivery × Endpoint :=
  match isHeadPoll q, e.blocks with
  | true, block :: rest => (⟨some (.ok block), none⟩, { e with blocks := rest })
  | _, _ =>
    let (r, e') := e.answer q
    let fatal := e.fatal.contains q.method
    (⟨if fatal then none else some r, e.latency⟩, { e' with fatal := e.fatal.erase q.method })

/-- How many requests other than head polls came. -/
def recorded (e : Endpoint) : Nat := e.calls.foldl (fun n (_, k) => n + k) 0

end Endpoint

end EthRpc
