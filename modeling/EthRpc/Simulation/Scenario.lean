-- SUMMARY: Scripts that drive a simulated client step by step, and what each step shows.
import EthRpc.Client
import EthRpc.Machine.Metrics
import EthRpc.Simulation.Schedule

/-!
# Scenarios

A scenario is a list of operations on a client, or on a pipeline put together
for the purpose, and on its endpoint. Every operation on the client is a step
that reports a result, the time at which it was over, and what happened since
the step before. A task that goes down in the foreground takes the scenario with
it.
-/

namespace EthRpc

namespace Scenario

open Machine (TaskId Event)

/-! ## Stages -/

/-- A stage to put into a pipeline. -/
inductive Part where
  | blockCache
  | inflight
  | blockRef
  | retryOnEmpty
  | inspector
  | other (s : Stage)

/-- The whole client, which numbers its own requests, or some stages, outermost first. -/
inductive Layout where
  | client
  | parts (ps : List Part)

structure Settings where
  client : Client.Settings
  methods : MethodTable
  layout : Layout

/-- Every cache and every table of shared runs belongs to one stage. -/
def assemble (methods : MethodTable) (retry : RetrySettings) :
    (caches tables : Nat) → List Part → List Stage
  | _, _, [] => []
  | c, t, .blockCache :: ps => .blockCache methods c :: assemble methods retry (c + 1) t ps
  | c, t, .inflight :: ps => .inflight methods t :: assemble methods retry c (t + 1) ps
  | c, t, .blockRef :: ps => .blockRef methods :: assemble methods retry c t ps
  | c, t, .retryOnEmpty :: ps => .retryOnEmpty methods retry :: assemble methods retry c t ps
  | c, t, .inspector :: ps => .inspector :: assemble methods retry c t ps
  | c, t, .other s :: ps => s :: assemble methods retry c t ps

namespace Settings

def stages (s : Settings) : List Stage :=
  match s.layout with
  | .client => Client.stages s.methods s.client.retry
  | .parts ps => assemble s.methods s.client.retry 0 0 ps

/-- How many of the stages have a cache. -/
def caches (s : Settings) : Nat :=
  match s.layout with
  | .client => 1
  | .parts ps => ps.countP fun | .blockCache => true | _ => false

/-- How many of the stages share runs. -/
def tables (s : Settings) : Nat :=
  match s.layout with
  | .client => 1
  | .parts ps => ps.countP fun | .inflight => true | _ => false

end Settings

/-! ## Operations -/

/-- What a caller wants. -/
inductive Work where
  /-- A request with an id, which may turn out to be none. -/
  | dispatch (id : Json) (method : String) (params : List Json)
  /-- A request that gets its id from the client. -/
  | call (method : String) (params : List Json)
  | query (q : Query)

inductive Operation where
  | script (c : Endpoint.Change)
  | perform (w : Work)
  | current
  | stages
  | sleep (d : Duration)
  | subscribe (name : String)
  | drop (name : String)
  | tryReceive (name : String)
  | drain (name : String)
  /-- Wait for a change, but not longer than this. -/
  | receive (name : String) (d : Duration)
  | spawn (name : String) (w : Work)
  | abort (name : String)
  | join (name : String)
  /-- Work that starts after a while, all at the same time. -/
  | concurrent (items : List (Duration × Work))
  | state (methods : List String)

/-! ## Reports -/

/-- What a caller gets. -/
inductive Answer where
  | response (r : Response)
  | outcome (o : Outcome)
  /-- The id was none. -/
  | refused

/-- How a task ended. -/
inductive Ending where
  | answered (a : Answer) (time : Duration)
  | cancelled
  | crashed

/-- A look at a client from outside. -/
structure Overview where
  head : Option BlockHead
  running : Bool
  headPolls : Nat
  recorded : Nat
  calls : List (String × Nat)
  /-- How many answers the last stage that caches keeps. -/
  cached : Option Nat
  /-- How many runs can be joined at the last stage that shares runs. -/
  shared : Option Nat

inductive Report where
  | nothing
  | answer (a : Answer)
  | head (h : Option BlockHead)
  | names (names : List String)
  | existed (b : Bool)
  | change (c : Option HeadChange)
  | changes (cs : List HeadChange)
  | ending (e : Ending)
  | endings (es : List Ending)
  | overview (o : Overview)
  | noSubscription
  | nothingReceived
  | noTask

structure Step where
  report : Report
  time : Duration
  /-- What happened since the step before. -/
  events : List (Duration × Event)
  /-- Several callers were at it at the same time. -/
  concurrent : Bool

end Scenario

/-! ## The state of a scenario -/

open Scenario Machine in
structure Scenario where
  settings : Settings
  simulation : Simulation
  /-- Live subscriptions by name. -/
  subscriptions : Dict Nat
  /-- Callers in the background by name, with what they make of an outcome. -/
  tasks : Dict (TaskId × (Outcome → Answer))
  /-- How many events were shown. -/
  shown : Nat

namespace Scenario

open Machine (TaskId Event)

def start (settings : Settings) : Scenario where
  settings := settings
  simulation :=
    { machine := .start settings.client.tracker
        (List.replicate settings.caches settings.client.cacheCapacity) settings.tables }
  subscriptions := []
  tasks := []
  shown := 0

def now (s : Scenario) : Duration := s.simulation.now

/-! ## Work -/

/-- The program of some work and what its caller makes of the outcome. -/
def prepare (settings : Settings) : Work → Program × (Outcome → Answer)
  | .dispatch id method params =>
    match RequestId.ofJson? id with
    | some id =>
      let d := Client.dispatch settings.stages ⟨id, method, params⟩
      (d.program, fun o => .response (d.response o))
    | none => (.done (.ok .null), fun _ => .refused)
  | .call method params =>
    match settings.layout with
    | .client => (Client.Work.program settings.stages (.call method params), .outcome)
    | .parts _ => (Stage.pipeline settings.stages ⟨.number 0, method, params⟩, .outcome)
  | .query q => (Client.Work.program settings.stages (.query q), .outcome)

/-- How a task ended, if it did. -/
def ending? (s : Scenario) (t : TaskId) (interpret : Outcome → Answer) : Option Ending :=
  match s.simulation.machine.activity? t with
  | some (.finished r) =>
    let time := s.simulation.machine.log.findSome? fun
      | (d, .finished t' _) => if t' = t then some d else none
      | _ => none
    some (.answered (interpret r) (time.getD s.now))
  | some .cancelled => some .cancelled
  | some .crashed => some .crashed
  | _ => none

/-- Start some work in the background, after a while if there is one. -/
def launch (s : Scenario) (delay : Duration) (w : Work) :
    (TaskId × (Outcome → Answer)) × Scenario :=
  let (p, interpret) := prepare s.settings w
  let p := if delay = 0 then p else .ask (.sleep delay) fun _ => p
  let (t, simulation) := s.simulation.launch p
  ((t, interpret), { s with simulation := simulation })

/-- Wait for a task to end. -/
def awaitEnding (s : Scenario) (t : TaskId) (interpret : Outcome → Answer) : Ending × Scenario :=
  let s := { s with simulation := s.simulation.await (.ended t) }
  ((s.ending? t interpret).getD .cancelled, s)

/-! ## Single operations -/

/-- Time for others to take notice. -/
def moment (s : Scenario) : Scenario :=
  { s with simulation := s.simulation.pass (.ofMillis 1) }

def unsubscribe (s : Scenario) (name : String) : Scenario :=
  match s.subscriptions.get? name with
  | some i =>
    { s with
      simulation := s.simulation.act (.unsubscribe i)
      subscriptions := s.subscriptions.filter (·.1 ≠ name) }
  | none => s

def subscribe (s : Scenario) (name : String) : Scenario :=
  let i := s.simulation.machine.subscriptions.size
  let s := { s with simulation := s.simulation.act .subscribe }.unsubscribe name
  { s with subscriptions := s.subscriptions.insert name i }

/-- The next change that a subscriber can read. -/
def receive (s : Scenario) (i : Nat) : Option HeadChange × Scenario :=
  match s.simulation.machine.receive i with
  | some (c, m) => (some c, { s with simulation := { s.simulation with machine := m } })
  | none => (none, s)

/-- Up to `n` changes that a subscriber can read. -/
def receiveAll (s : Scenario) (i : Nat) : Nat → List HeadChange × Scenario
  | 0 => ([], s)
  | n + 1 =>
    match s.receive i with
    | (some c, s) => let (cs, s) := s.receiveAll i n; (c :: cs, s)
    | (none, s) => ([], s)

/-- Go on with a subscription, if there is one of this name. -/
def withSubscription (s : Scenario) (name : String) (k : Nat → Report × Scenario) :
    Report × Scenario :=
  match s.subscriptions.get? name with
  | some i => k i
  | none => (.noSubscription, s)

def overview (s : Scenario) (methods : List String) : Overview :=
  let m := s.simulation.machine
  let e := s.simulation.endpoint
  let (cached, shared) := match s.settings.layout with
    | .client => (none, none)
    | .parts _ => (m.caches.back?.map (·.length), m.tables.back?.map (·.length))
  { head := m.tracker.head?
    running := m.isRunning
    headPolls := e.headPolls
    recorded := e.recorded
    calls := methods.map fun name => (name, (e.calls.get? name).getD 0)
    cached := cached
    shared := shared }

/-- Carry out an operation on the client; `none` if a task went down in the foreground. -/
def carryOut (s : Scenario) : Operation → Option (Report × Scenario)
  | .script c =>
    some (.nothing,
      { s with simulation := { s.simulation with endpoint := s.simulation.endpoint.change c } })
  | .perform w =>
    let (p, interpret) := prepare s.settings w
    let (t, simulation) := s.simulation.perform p
    let s := { s with simulation := simulation }
    match s.ending? t interpret with
    | some (.answered a _) => some (.answer a, s)
    | _ => none
  | .current => some (.head s.simulation.machine.tracker.head?, s)
  | .stages => some (.names (s.settings.stages.map (·.name)), s)
  | .sleep d => some (.nothing, { s with simulation := s.simulation.pass d })
  | .subscribe name => some (.nothing, (s.subscribe name).moment)
  | .drop name =>
    some (.existed (s.subscriptions.get? name).isSome, (s.unsubscribe name).moment)
  | .tryReceive name => some (s.withSubscription name fun i =>
    let (c, s) := s.receive i
    (.change c, s))
  | .drain name => some (s.withSubscription name fun i =>
    let (cs, s) := s.receiveAll i Tracker.backlog
    (.changes cs, s))
  | .receive name d => some (s.withSubscription name fun i =>
    let s := { s with simulation := s.simulation.await (.change i (s.now + d)) }
    match s.receive i with
    | (some c, s) => (.change (some c), s)
    | (none, s) => (.nothingReceived, s))
  | .spawn name w =>
    let (task, s) := s.launch 0 w
    some (.nothing, { s with tasks := s.tasks.insert name task }.moment)
  | .abort name =>
    let s := match s.tasks.get? name with
      | some (t, _) => { s with simulation := s.simulation.abort t }
      | none => s
    some (.nothing, s.moment)
  | .join name =>
    match s.tasks.get? name with
    | some (t, interpret) =>
      let (e, s) := { s with tasks := s.tasks.filter (·.1 ≠ name) }.awaitEnding t interpret
      some (.ending e, s)
    | none => some (.noTask, s)
  | .concurrent items =>
    let (tasks, s) := items.foldl (fun (tasks, s) (delay, w) =>
      let (task, s) := launch s delay w
      (tasks ++ [task], s)) ([], s)
    let (es, s) := tasks.foldl (fun (es, s) (t, interpret) =>
      let (e, s) := awaitEnding s t interpret
      (es ++ [e], s)) ([], s)
    some (.endings es, s)
  | .state methods => some (.overview (s.overview methods), s)

/-! ## Runs -/

def Operation.isScript : Operation → Bool
  | .script _ => true
  | _ => false

def Operation.isConcurrent : Operation → Bool
  | .concurrent _ => true
  | _ => false

/-- The events that were not shown yet, oldest first. -/
def newEvents (s : Scenario) : List (Duration × Event) :=
  let log := s.simulation.machine.log
  (log.take (log.length - s.shown)).reverse

/-- Carry out operations in order; scripts are no steps. -/
def runFrom (s : Scenario) : List Operation → Option (List Step × Scenario)
  | [] => some ([], s)
  | op :: ops =>
    match s.carryOut op with
    | none => none
    | some (report, s) =>
      if op.isScript then s.runFrom ops
      else
        let step : Step := ⟨report, s.now, s.newEvents, op.isConcurrent⟩
        let s := { s with shown := s.simulation.machine.log.length }
        match s.runFrom ops with
        | none => none
        | some (steps, s) => some (step :: steps, s)

/-- The steps of a scenario and what the client counted. -/
def run (settings : Settings) (ops : List Operation) : Option (List Step × Dict Nat) :=
  ((start settings).runFrom ops).map fun (steps, s) => (steps, s.simulation.machine.metrics)

end Scenario

end EthRpc
