-- SUMMARY: Requests in progress as trees of the commands they may give and the replies they may get.
import EthRpc.Backoff
import EthRpc.Block.Head
import EthRpc.Rpc.Error
import EthRpc.Rpc.Request

/-!
# Programs

A program says how one request is handled: it is done, or it gives a command and
goes on with the reply, or it shares the run of another program with all who ask
for the same key. Nothing is said here about who else is running meanwhile: a
program must be ready for any reply.
-/

namespace EthRpc

/-! ## Commands -/

/-- A question to the block tracker. -/
inductive Query where
  /-- The current head, polled if the known one is stale. -/
  | latest
  /-- A poll, whatever is known. -/
  | check
  /-- A poll if a block number is above the known head. -/
  | ifBehind (n : Nat)
  deriving DecidableEq

/-- A poll may fail; the conditional one may be needless. -/
abbrev Query.Answer : Query → Type
  | .latest => Except RpcError BlockHead
  | .check => Except RpcError BlockHead
  | .ifBehind _ => Except RpcError (Option BlockHead)

/-- The answer that a poll gives to a question. -/
def Query.report : (q : Query) → Except RpcError BlockHead → q.Answer
  | .latest, r => r
  | .check, r => r
  | .ifBehind _, .ok h => .ok (some h)
  | .ifBehind _, .error e => .error e

/-- What is counted. -/
inductive Counter where
  | hits | misses
  | led | joined
  | retries | exhausted
  | polls | pollFailures
  deriving DecidableEq

inductive Command where
  /-- Send a request to the endpoint. -/
  | send (q : Request)
  | query (q : Query)
  /-- The known head, without asking anybody. -/
  | currentHead
  /-- A number that no request of this client has had as its id. -/
  | freshId
  | sleep (d : Duration)
  /-- Look into a cache. -/
  | lookup (cache : Nat) (key : String)
  /-- Write into a cache. -/
  | keep (cache : Nat) (key : String) (value : Json)
  | count (c : Counter)
  /-- Leave a mark in the record of the run. -/
  | mark (label : String) (entering : Bool)

abbrev Command.Reply : Command → Type
  | .send _ => Outcome
  | .query q => q.Answer
  | .currentHead => Option BlockHead
  | .freshId => Nat
  | .sleep _ => Unit
  | .lookup _ _ => Option Json
  | .keep _ _ _ => Unit
  | .count _ => Unit
  | .mark _ _ => Unit

/-! ## Programs -/

inductive Program where
  | done (r : Outcome)
  | ask (c : Command) (k : c.Reply → Program)
  /-- Join the run under a key, or start `run` under it if there is none. -/
  | share (table : Nat) (key : String) (run : Program) (k : Outcome → Program)

namespace Program

instance : Inhabited Program := ⟨.done (.ok .null)⟩

/-- Go on after a program with its outcome. -/
def bind : Program → (Outcome → Program) → Program
  | .done r, f => f r
  | .ask c k, f => .ask c fun a => (k a).bind f
  | .share table key run k, f => .share table key run fun r => (k r).bind f

@[simp] theorem bind_done (r : Outcome) (f : Outcome → Program) : (done r).bind f = f r := rfl

theorem bind_assoc (p : Program) (f g : Outcome → Program) :
    (p.bind f).bind g = p.bind fun r => (f r).bind g := by
  induction p with
  | done r => rfl
  | ask c k ih => simp only [bind, ih]
  | share table key run k _ ih => simp only [bind, ih]

/-- Go on after a success; a failure ends the program. -/
def andThen (p : Program) (f : Json → Program) : Program :=
  p.bind fun
    | .ok v => f v
    | .error e => .done (.error e)

def send (q : Request) : Program := .ask (.send q) .done

end Program

end EthRpc
