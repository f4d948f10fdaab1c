-- SUMMARY: The steps of a client at work, one task or one outside event at a time.
import EthRpc.Machine.Basic

/-!
# Steps

An action is one step of one task, an event from outside, or the passing of
time. Actions may come in any order: one that does not fit the state changes
nothing. A run of a client is a list of actions, and what holds after every list
holds whatever the order in which tasks are scheduled.
-/

namespace EthRpc.Machine

/-! ## Taking turns at polling -/

/-- The turn passes to the first task that waits for it. -/
def passTurn (m : Machine) : Machine :=
  let turn := m.turn.pass
  let m := { m with turn := turn }
  match turn.holder with
  | none => m
  | some t =>
    match m.activity? t with
    | some (.queued s) => m.wake t (.admitted s)
    | _ => m

/-- Start a poll. -/
def sendPoll (m : Machine) (t : TaskId) (s : Seeker) : Machine :=
  let q := m.tracker.pollRequest
  (({ m with tracker := { m.tracker with nextId := m.tracker.nextId + 1 } }.count .polls).record
    (.sent t true q)).setActivity t (.polling q s)

/-- With the turn taken, a question may have found its answer and a loop may have been stopped. -/
def look (m : Machine) (t : TaskId) : Seeker → Machine
  | .query q k =>
    match m.tracker.answer? m.isRunning m.now q with
    | some a => (m.setActivity t (.running (k a))).passTurn
    | none => m.sendPoll t (.query q k)
  | .loop b stopped =>
    if stopped then (m.setActivity t (.finished (.ok .null))).passTurn
    else m.sendPoll t (.loop b stopped)

/-- Take the turn, or wait for it. -/
def seek (m : Machine) (t : TaskId) (s : Seeker) : Machine :=
  let free := m.turn.holder.isNone
  let m := { m with turn := m.turn.ask t }
  if free then m.look t s else m.setActivity t (.queued s)

/-- Be about to ask for the turn unless the answer is known. -/
def query (m : Machine) (t : TaskId) (q : Query) (k : q.Answer → Program) : Machine :=
  match m.tracker.answer? m.isRunning m.now q with
  | some a => m.setActivity t (.running (k a))
  | none => m.setActivity t (.seeking (.query q k))

/-- A poll loop waits for its next timer, or for being told to stop if it was not yet. -/
def pause (m : Machine) (t : TaskId) (wait : Duration) (b : Backoff) (stopped : Bool) : Machine :=
  (m.record (.timer t wait)).setActivity t (.pausing (m.now + wait) (.loop b stopped))

/-- A poll is over: its head is noted, the turn passes on, and the task goes on with the answer. -/
def digest (m : Machine) (t : TaskId) (r : Outcome) (s : Seeker) : Machine :=
  let head := Tracker.polledHead r
  let m := ({ m with tracker := m.tracker.digest m.now head }.record (.polled t head)).passTurn
  match s with
  | .query q k => m.setActivity t (.running (k (q.report head)))
  | .loop b stopped =>
    match head with
    | .ok _ => m.pause t m.tracker.settings.pollInterval b.reset stopped
    | .error _ =>
      let (wait, b) := b.next 0
      (m.count .pollFailures).pause t wait b stopped

/-! ## Sharing runs -/

/-- Replace the table of the given index. -/
def setTable (m : Machine) (i : Nat) (entries : List SharedRun) : Machine :=
  { m with tables := m.tables.modify i fun _ => entries }

def table (m : Machine) (i : Nat) : List SharedRun := (m.tables[i]?).getD []

/-- Join the run under a key, or lead a new one. -/
def share (m : Machine) (t : TaskId) (i : Nat) (key : String) (run : Program)
    (k : Outcome → Program) : Machine :=
  match (m.table i).find? (·.key = key) with
  | some e =>
    let join (e : SharedRun) : SharedRun :=
      if e.key = key then { e with joiners := e.joiners ++ [t] } else e
    ((m.setTable i ((m.table i).map join)).count .joined).setActivity t (.joined e.run k)
  | none =>
    let new := m.tasks.size
    (((m.setTable i (m.table i ++ [⟨key, new, []⟩])).count .led).spawn
      (.run i key t) (.running run)).setActivity t (.leading new k)

/-- A joiner that still waits for a run gets an outcome. -/
def deliver (m : Machine) (run : TaskId) (r : Outcome) (t : TaskId) : Machine :=
  match m.activity? t with
  | some (.joined run' k) => if run' = run then m.wake t (.running (k r)) else m
  | _ => m

/-- The leader of a run gets its outcome, if it still waits. -/
def deliverLeader (m : Machine) (run : TaskId) (r : Outcome) (t : TaskId) : Machine :=
  match m.activity? t with
  | some (.leading run' k) => if run' = run then m.wake t (.running (k r)) else m
  | _ => m

/-- A run leaves its table, and everybody who waits for it is told. -/
def closeRun (m : Machine) (t : TaskId) (forJoiners forLeader : Outcome) : Machine :=
  match m.tasks[t]? with
  | some ⟨.run i key leader, _⟩ =>
    let joiners := (((m.table i).find? (·.key = key)).map (·.joiners)).getD []
    let m := m.setTable i ((m.table i).filter (·.key ≠ key))
    (joiners.foldl (fun m j => m.deliver t forJoiners j) m).deliverLeader t forLeader leader
  | _ => m

/-! ## Tasks -/

/-- A task has come to the end of its program. -/
def finish (m : Machine) (t : TaskId) (r : Outcome) : Machine :=
  ((m.setActivity t (.finished r)).record (.finished t r)).closeRun t r r

/-- A task carries out a command. -/
def perform (m : Machine) (t : TaskId) : (c : Command) → (c.Reply → Program) → Machine
  | .send q, k => (m.record (.sent t false q)).setActivity t (.calling q k)
  | .query q, k => m.query t q k
  | .currentHead, k => m.setActivity t (.running (k m.tracker.head?))
  | .freshId, k => { m with nextId := m.nextId + 1 }.setActivity t (.running (k m.nextId))
  | .sleep d, k => m.setActivity t (.sleeping (m.now + d) (k ()))
  | .lookup i key, k =>
    match m.caches[i]?.bind (·.get? key) with
    | some (v, cache) =>
      (({ m with caches := m.caches.modify i fun _ => cache }.count .hits).record
        (.recalled t i key v)).setActivity t (.running (k (some v)))
    | none => (m.count .misses).setActivity t (.running (k none))
  | .keep i key v, k =>
    ({ m with caches := m.caches.modify i fun cache => (cache.insert key v).2 }.record
      (.stored t i key v)).setActivity t (.running (k ()))
  | .count c, k => (m.count c).setActivity t (.running (k ()))
  | .mark label entering, k =>
    (m.record (.marked label entering)).setActivity t (.running (k ()))

/-- A task takes its next step. -/
def advance (m : Machine) (t : TaskId) : Machine :=
  match m.activity? t with
  | some (.running (.done r)) => m.finish t r
  | some (.running (.ask c k)) => m.perform t c k
  | some (.running (.share i key run k)) => m.share t i key run k
  | some (.seeking s) => m.seek t s
  | some (.admitted s) => m.look t s
  | some (.polled r s) => m.digest t r s
  | some (.pausing _ (.loop _ true)) => m.setActivity t (.finished (.ok .null))
  | _ => m

/-- A task ends without coming to the end of its program; the turn does not stay with it. -/
def drop (m : Machine) (t : TaskId) (a : Activity) : Machine :=
  match m.activity? t with
  | none => m
  | some old =>
    let m := m.setActivity t a
    if old.hasTurn then m.passTurn else { m with turn := m.turn.leave t }

/-! ## Subscriptions -/

/-- Somebody wants to hear of changes; the first one starts a poll loop. -/
def subscribe (m : Machine) : Machine :=
  let m := { m with
    subscriptions := m.subscriptions.push (some (.start m.tracker))
    consumers := m.consumers + 1 }
  if m.consumers = 1 then
    { m.spawn .pollLoop (.seeking (.loop (.start m.tracker.settings.backoff) false)) with
      loop := some m.tasks.size }
  else m

/-- A seeker that is told to stop; questions cannot be. -/
def Seeker.stop : Seeker → Seeker
  | .loop b _ => .loop b true
  | s => s

/-- Tell a poll loop to stop, wherever it is. -/
def stopLoop (m : Machine) (t : TaskId) : Machine :=
  match m.activity? t with
  | some (.seeking s) => m.setActivity t (.seeking s.stop)
  | some (.queued s) => m.setActivity t (.queued s.stop)
  | some (.admitted s) => m.setActivity t (.admitted s.stop)
  | some (.polling q s) => m.setActivity t (.polling q s.stop)
  | some (.polled r s) => m.setActivity t (.polled r s.stop)
  | some (.pausing d s) => m.wake t (.pausing d s.stop)
  | _ => m

/-- A subscription ends; the last one stops the poll loop. -/
def unsubscribe (m : Machine) (i : Nat) : Machine :=
  match m.subscriptions[i]? with
  | some (some _) =>
    let m := { m with
      subscriptions := m.subscriptions.modify i fun _ => none
      consumers := m.consumers - 1 }
    if m.consumers = 0 then
      match m.loop with
      | some t => { m.stopLoop t with loop := none }
      | none => m
    else m
  | _ => m

/-- The next change for a subscriber, if there is one. -/
def receive (m : Machine) (i : Nat) : Option (HeadChange × Machine) :=
  match m.subscriptions[i]? with
  | some (some s) =>
    (s.next? m.tracker).map fun (c, s') =>
      (c, { m with subscriptions := m.subscriptions.modify i fun _ => some s' })
  | _ => none

/-! ## Actions -/

inductive Action where
  /-- A caller comes with a program. -/
  | launch (p : Program)
  /-- A task takes its next step. -/
  | step (t : TaskId)
  /-- The endpoint answers a task. -/
  | answer (t : TaskId) (r : Outcome)
  /-- A task fails in what it is doing, and is taken down. -/
  | crash (t : TaskId)
  /-- The timer of a task fires. -/
  | fire (t : TaskId)
  /-- A caller goes away. -/
  | abort (t : TaskId)
  | subscribe
  | unsubscribe (i : Nat)
  | receive (i : Nat)
  /-- Time passes. -/
  | pass (d : Duration)

/-- What those who waited for a run are told if it died. -/
def abandoned : RpcError := .internal "inflight request abandoned"

/-- What the leader of a run is told if it died. After the colon stands what the runtime says of
the crash, in short: there it also names the task by a number of its own and may quote a message. -/
def failedRun : RpcError := .internal "inflight request failed: task panicked"

/-- The state after an action. -/
def act (m : Machine) : Action → Machine
  | .launch p => m.spawn .caller (.running p)
  | .step t => m.advance t
  | .answer t r =>
    match m.activity? t with
    | some (.calling _ k) => (m.record (.answered t r)).wake t (.running (k r))
    | some (.polling _ s) => (m.record (.answered t r)).wake t (.polled r s)
    | _ => m
  | .crash t =>
    match m.activity? t with
    | some a =>
      if a.canFail then (m.drop t .crashed).closeRun t (.error abandoned) (.error failedRun)
      else m
    | none => m
  | .fire t =>
    match m.activity? t with
    | some (.sleeping d p) => if d ≤ m.now then m.wake t (.running p) else m
    | some (.pausing d s) => if d ≤ m.now then m.wake t (.seeking s) else m
    | _ => m
  | .abort t =>
    match m.tasks[t]? with
    | some ⟨.caller, a⟩ => if a.isOver then m else m.drop t .cancelled
    | _ => m
  | .subscribe => m.subscribe
  | .unsubscribe i => m.unsubscribe i
  | .receive i => ((m.receive i).map (·.2)).getD m
  | .pass d => { m with now := m.now + d }

/-- The state after a run. -/
def run (m : Machine) (actions : List Action) : Machine := actions.foldl act m

end EthRpc.Machine
