-- SUMMARY: The stages of a client, in their order, its settings, and what callers may want of it.
import EthRpc.Machine.Basic
import EthRpc.Method.Builtin
import EthRpc.Rpc.Response
import EthRpc.Stage.BlockCache
import EthRpc.Stage.Inflight
import EthRpc.Stage.Inspector
import EthRpc.Stage.RetryOnEmpty

/-!
# The client

A request goes through five stages: it is answered from the cache, shared with
an equal one in flight, pinned to a block, asked again while it comes back
empty, and its response is inspected for signs of a newer head.
-/

namespace EthRpc

structure Client.Settings where
  tracker : Tracker.Settings
  /-- How many answers the cache holds. -/
  cacheCapacity : Nat
  retry : RetrySettings
  deriving DecidableEq

def Client.Settings.default : Client.Settings := ⟨.default, 10000, .default⟩

namespace Client

/-- The stages of a client, outermost first. -/
def stages (methods : MethodTable) (retry : RetrySettings) : List Stage :=
  [.blockCache methods 0, .inflight methods 0, .blockRef methods, .retryOnEmpty methods retry,
   .inspector]

/-- The program by which a client handles a request. -/
def program (methods : MethodTable) (retry : RetrySettings) (q : Request) : Program :=
  Stage.pipeline (stages methods retry) q

/-- A client before anybody has come. -/
def start (s : Settings) : Machine := .start s.tracker [s.cacheCapacity] 1

/-! ## Dispatching -/

/-- A request on its way: the program that handles it, and the response made of what comes out. -/
structure Dispatch where
  program : Program
  response : Outcome → Response

/-- Handle a request by the given stages, and respond to it under its own id. -/
def dispatch (stages : List Stage) (q : Request) : Dispatch where
  program := Stage.pipeline stages q
  response := .ofOutcome q.id

/-! ## Work -/

/-- What a caller wants. -/
inductive Work where
  /-- A request with an id of the caller's. -/
  | dispatch (q : Request)
  /-- A request that gets its id from the client. -/
  | call (method : String) (params : List Json)
  | query (q : Query)

/-- The program that answers a question. -/
def askTracker (q : Query) : Program :=
  .ask (.query q) fun a => .done (match q, a with
    | .latest, a => a.map BlockHead.toJson
    | .check, a => a.map BlockHead.toJson
    | .ifBehind _, a => a.map (Json.ofOption BlockHead.toJson))

/-- The program of some work, which sends requests through the given stages. -/
def Work.program (stages : List Stage) : Work → Program
  | .dispatch q => (Client.dispatch stages q).program
  | .call method params => .ask .freshId fun n => Stage.pipeline stages ⟨.number n, method, params⟩
  | .query q => askTracker q

end Client

end EthRpc
