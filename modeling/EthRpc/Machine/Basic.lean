-- SUMMARY: The state of a client at work: tasks, shared tables, the tracker and the record of what happened.
import EthRpc.Lru
import EthRpc.Program
import EthRpc.Tracker.Subscription
import EthRpc.Tracker.Turn

/-!
# The machine

Every request is handled by a task, and so is every shared run and every poll
loop. Tasks are numbered in the order of their creation and never removed. A
task that cannot go on says what it waits for and keeps the rest of its program;
what all tasks share is the caches, the tables of shared runs, and the tracker.
-/

namespace EthRpc

namespace Machine

abbrev TaskId := Nat

/-- Who wants to poll. -/
inductive Seeker where
  /-- A program that asked the tracker a question. -/
  | query (q : Query) (k : q.Answer → Program)
  /-- A poll loop, which may have been told to stop. -/
  | loop (backoff : Backoff) (stopped : Bool)

/-- What a task is doing. -/
inductive Activity where
  /-- It can go on with its program. -/
  | running (p : Program)
  /-- It waits for the endpoint. -/
  | calling (q : Request) (k : Outcome → Program)
  | sleeping (until_ : Duration) (p : Program)
  /-- It waits for the outcome of a run that another task leads. -/
  | joined (run : TaskId) (k : Outcome → Program)
  /-- It waits for the run that it started. -/
  | leading (run : TaskId) (k : Outcome → Program)
  /-- It is about to ask for the turn. -/
  | seeking (s : Seeker)
  /-- It waits for the turn. -/
  | queued (s : Seeker)
  /-- It has the turn and has not looked at the head since. -/
  | admitted (s : Seeker)
  /-- It has the turn and waits for the endpoint. -/
  | polling (q : Request) (s : Seeker)
  /-- It has the turn and the result of its poll. -/
  | polled (r : Outcome) (s : Seeker)
  /-- A poll loop between two polls. -/
  | pausing (until_ : Duration) (s : Seeker)
  | finished (r : Outcome)
  | crashed
  | cancelled

namespace Activity

/-- The task can take a step by itself. -/
def canRun : Activity → Bool
  | running _ | seeking _ | admitted _ | polled _ _ => true
  | pausing _ (.loop _ stopped) => stopped
  | _ => false

/-- The task will never take a step again. -/
def isOver : Activity → Bool
  | finished _ | crashed | cancelled => true
  | _ => false

/-- The task may fail: it is not over, and a wait for a run goes on until there is an outcome. -/
def canFail : Activity → Bool
  | joined _ _ | leading _ _ | finished _ | crashed | cancelled => false
  | _ => true

/-- The task holds the turn. -/
def hasTurn : Activity → Bool
  | admitted _ | polling _ _ | polled _ _ => true
  | _ => false

end Activity

/-- What a task was created for. -/
inductive Role where
  | caller
  /-- A run that is shared under a key, and the task that leads it. -/
  | run (table : Nat) (key : String) (leader : TaskId)
  | pollLoop
  deriving DecidableEq

structure Task where
  role : Role
  activity : Activity

/-- A run that can be joined. -/
structure SharedRun where
  key : String
  run : TaskId
  /-- Who joined, in the order of coming. -/
  joiners : List TaskId
  deriving DecidableEq

/-- What the counters stand at. -/
structure Tally where
  hits : Nat := 0
  misses : Nat := 0
  led : Nat := 0
  joined : Nat := 0
  retries : Nat := 0
  exhausted : Nat := 0
  polls : Nat := 0
  pollFailures : Nat := 0
  deriving DecidableEq

def Tally.bump (t : Tally) : Counter → Tally
  | .hits => { t with hits := t.hits + 1 }
  | .misses => { t with misses := t.misses + 1 }
  | .led => { t with led := t.led + 1 }
  | .joined => { t with joined := t.joined + 1 }
  | .retries => { t with retries := t.retries + 1 }
  | .exhausted => { t with exhausted := t.exhausted + 1 }
  | .polls => { t with polls := t.polls + 1 }
  | .pollFailures => { t with pollFailures := t.pollFailures + 1 }

/-- What is worth remembering. -/
inductive Event where
  /-- A task sent a request to the endpoint, to poll the head or for a caller. -/
  | sent (task : TaskId) (poll : Bool) (q : Request)
  /-- The endpoint answered a task. -/
  | answered (task : TaskId) (r : Outcome)
  /-- A poll came to its end. -/
  | polled (task : TaskId) (r : Except RpcError BlockHead)
  /-- A poll loop asked for a timer. -/
  | timer (task : TaskId) (d : Duration)
  | marked (label : String) (entering : Bool)
  /-- A value went into a cache. -/
  | stored (task : TaskId) (cache : Nat) (key : String) (value : Json)
  /-- A value came out of a cache. -/
  | recalled (task : TaskId) (cache : Nat) (key : String) (value : Json)
  /-- A task came to the end of its program. -/
  | finished (task : TaskId) (r : Outcome)

end Machine

open Machine in
/-- A client at work. -/
structure Machine where
  now : Duration
  tasks : Array Task
  /-- Tasks that can run, in the order in which they became able to. -/
  ready : List TaskId
  tracker : Tracker
  /-- Who may poll. -/
  turn : Turn
  /-- The poll loop that goes on as long as there are subscriptions. -/
  loop : Option TaskId
  /-- How many subscriptions there are. -/
  consumers : Nat
  /-- Subscriptions by number, absent once dropped. -/
  subscriptions : Array (Option Subscription)
  caches : Array (Lru Json)
  tables : Array (List SharedRun)
  /-- The id of the next request that the client numbers itself. -/
  nextId : Nat
  tally : Tally
  /-- What happened and when, last first. -/
  log : List (Duration × Event)

namespace Machine

/-- A client that has done nothing yet, with a cache for each capacity. -/
def start (settings : Tracker.Settings) (capacities : List Nat) (tables : Nat) : Machine where
  now := 0
  tasks := #[]
  ready := []
  tracker := .start settings
  turn := .free
  loop := none
  consumers := 0
  subscriptions := #[]
  caches := (capacities.map Lru.empty).toArray
  tables := Array.replicate tables []
  nextId := 1
  tally := {}
  log := []

/-- Polling goes on by itself. -/
def isRunning (m : Machine) : Bool := 0 < m.consumers

def activity? (m : Machine) (t : TaskId) : Option Activity := m.tasks[t]?.map (·.activity)

def setActivity (m : Machine) (t : TaskId) (a : Activity) : Machine :=
  { m with tasks := m.tasks.modify t fun task => { task with activity := a } }

/-- Let a task go on with something, after those that can run already. -/
def wake (m : Machine) (t : TaskId) (a : Activity) : Machine :=
  { m.setActivity t a with ready := m.ready ++ [t] }

def record (m : Machine) (e : Event) : Machine := { m with log := (m.now, e) :: m.log }

def count (m : Machine) (c : Counter) : Machine := { m with tally := m.tally.bump c }

/-- Create a task that can run. -/
def spawn (m : Machine) (role : Role) (a : Activity) : Machine :=
  { m with tasks := m.tasks.push ⟨role, a⟩, ready := m.ready ++ [m.tasks.size] }

end Machine

end EthRpc
