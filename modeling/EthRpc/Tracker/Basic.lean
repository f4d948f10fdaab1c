-- SUMMARY: The tracked head of the chain: what is observed, when it is fresh, which changes it went through.
import EthRpc.Program

/-!
# The tracked head

The tracked head only moves forward. A polled head that is not above it changes
nothing but the time of the last observation, so among several heads of one
number the first one counts. Every move is a change, and the changes of a run
form its history.
-/

namespace EthRpc

structure Tracker.Settings where
  /-- Between polls while somebody is subscribed. -/
  pollInterval : Duration
  /-- Between polls that fail. -/
  backoff : Backoff.Options
  /-- How long a head is good for while nobody is subscribed. -/
  blockReset : Duration
  deriving DecidableEq

/-- Every twenty seconds; after failures one to thirty seconds and up to half a second more. -/
def Tracker.Settings.default : Tracker.Settings where
  pollInterval := .ofSeconds 20
  backoff := ⟨.ofSeconds 1, .ofSeconds 30, .ofMillis 500⟩
  blockReset := .ofSeconds 20

structure Tracker where
  settings : Tracker.Settings
  /-- The tracked head and the time of the last successful poll. -/
  observed : Option (BlockHead × Duration)
  /-- All moves of the tracked head, oldest first. -/
  changes : List HeadChange
  /-- The id of the next poll. -/
  nextId : Nat

namespace Tracker

def start (settings : Settings) : Tracker := ⟨settings, none, [], 1⟩

def head? (t : Tracker) : Option BlockHead := t.observed.map (·.1)

/-- The tracked head if it needs no poll: `running` tells whether polling goes on anyway. -/
def fresh? (t : Tracker) (running : Bool) (now : Duration) : Option BlockHead :=
  match t.observed with
  | none => none
  | some (h, at_) => if running ∨ now - at_ < t.settings.blockReset then some h else none

/-- A block number is above the tracked head, if there is one. -/
def isBehind (t : Tracker) (n : Nat) : Bool :=
  match t.head? with
  | none => false
  | some h => h.number < n

/-- The answer to a question that needs no poll. -/
def answer? (t : Tracker) (running : Bool) (now : Duration) : (q : Query) → Option q.Answer
  | .latest => (t.fresh? running now).map .ok
  | .check => none
  | .ifBehind n => if t.isBehind n then none else some (.ok none)

/-- The request of the next poll. -/
def pollRequest (t : Tracker) : Request :=
  ⟨.number t.nextId, "eth_getBlockByNumber", [.string "latest", .bool false]⟩

/-- The head that a poll reports. -/
def polledHead : Outcome → Except RpcError BlockHead
  | .error e => .error e
  | .ok block =>
    match BlockHead.ofBlock? block with
    | some h => .ok h
    | none => .error (.malformed "latest block is missing its number or hash")

/-- Take note of a polled head. -/
def observe (t : Tracker) (h : BlockHead) (now : Duration) : Tracker :=
  match t.head? with
  | some previous =>
    if h.number ≤ previous.number then { t with observed := some (previous, now) }
    else
      { t with
        observed := some (h, now)
        changes := t.changes ++ [⟨some previous, h⟩] }
  | none => { t with observed := some (h, now), changes := t.changes ++ [⟨none, h⟩] }

/-- Take note of the result of a poll; a failure leaves no trace. -/
def digest (t : Tracker) (now : Duration) : Except RpcError BlockHead → Tracker
  | .ok h => t.observe h now
  | .error _ => t

end Tracker

end EthRpc
