-- SUMMARY: Counting requests to an endpoint by method and by what came of them.
import EthRpc.Machine.Metrics

/-!
# The ledger of requests

A request is counted when it is sent, and again under a label when it is
answered. The gauge of open requests goes up when one is sent and down when one
is answered; a request whose caller goes away in between stays on it.
-/

namespace EthRpc.Http

/-- A request was sent, or it was answered. -/
inductive Entry where
  | opened (method : String)
  | closed (method : String) (r : Outcome)

/-- The label of an outcome. -/
def label : Outcome → String
  | .ok _ => "success"
  | .error (.protocol e) =>
    if e.code = -32700 then "parse_error"
    else if e.code = -32600 then "invalid_request"
    else if e.code = -32601 then "method_not_found"
    else if e.code = -32602 then "invalid_params"
    else if e.code = -32603 then "internal_error"
    else if -32099 ≤ e.code ∧ e.code ≤ -32000 then "server_error"
    else "other"
  | .error (.http status _) => if 400 ≤ status ∧ status < 500 then "http_4xx" else "http_5xx"
  | .error .timeout => "timeout"
  | .error (.transport _) => "transport"
  | .error (.malformed _) => "malformed"
  | .error (.internal _) => "internal"

structure Ledger where
  requests : Dict Nat := []
  openRequests : Dict Nat := []
  /-- How many times were measured. -/
  latencies : Dict Nat := []
  /-- Answers by method and label. -/
  statuses : Dict (Dict Nat) := []

namespace Ledger

def increment (key : String) (d : Dict Nat) : Dict Nat := Dict.update key (fun n => n.getD 0 + 1) d

def decrement (key : String) (d : Dict Nat) : Dict Nat := Dict.update key (fun n => n.getD 0 - 1) d

def note (l : Ledger) : Entry → Ledger
  | .opened method =>
    { l with
      requests := increment method l.requests
      openRequests := increment method l.openRequests }
  | .closed method r =>
    { l with
      openRequests := decrement method l.openRequests
      latencies := increment method l.latencies
      statuses := Dict.update method (fun d => increment (label r) (d.getD [])) l.statuses }

def ofEntries (entries : List Entry) : Ledger := entries.foldl note {}

/-- The name of a level, with what it is counted by. -/
def levelName (name : String) (tags : List (String × String)) : String :=
  "remote_provider." ++ name ++ "\x7b"
    ++ String.intercalate "," (tags.map fun (k, v) => k ++ "=" ++ v) ++ "\x7d"

/-- All levels that are not zero. -/
def levels (l : Ledger) : Dict Nat :=
  let byMethod (name : String) (d : Dict Nat) : List (String × Nat) :=
    d.map fun (method, n) => (levelName name [("method_name", method)], n)
  let byStatus := l.statuses.flatMap fun (method, d) => d.map fun (status, n) =>
    (levelName "response_status" [("method_name", method), ("status", status)], n)
  nonzeroLevels (byMethod "num_requests" l.requests ++ byMethod "open_requests" l.openRequests
    ++ byMethod "request_latency" l.latencies ++ byStatus)

end Ledger

/-! ## The requests of a client -/

/-- Requests that tasks wait for, and the entries so far, last first. -/
abbrev Open := List (Machine.TaskId × String) × List Entry

/-- The entry that an event of a client makes. -/
def noteEvent (state : Open) : Machine.Event → Open
  | .sent task _ q => ((task, q.method) :: state.1, .opened q.method :: state.2)
  | .answered task r =>
    match state.1.lookup task with
    | some method => (state.1, .closed method r :: state.2)
    | none => state
  | _ => state

/-- The entries that a client makes in its ledger. -/
def entriesOf (m : Machine) : List Entry :=
  ((m.log.reverse.map (·.2)).foldl noteEvent ([], [])).2.reverse

end EthRpc.Http
