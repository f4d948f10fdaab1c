-- SUMMARY: Running a client against a scripted endpoint on a clock that waits for nobody.
import EthRpc.Machine.Step
import EthRpc.Simulation.Endpoint

/-!
# Schedules

A simulation chooses among the actions that a client at work may take. One task
works at a time, as long as it can; the others queue up in the order in which
they were woken. The foreground is whoever drives the simulation: it looks
whether its goal is reached when no other task can run, after every sixty-one
tasks, and first thing whenever the clock has moved. The clock moves only when
everybody waits, to the next alarm, and alarms of one time go off in the order
in which they were set.

Waits may be over at once, but not too many in a row: whoever had its share of
them steps aside until the round is over.
-/

namespace EthRpc

namespace Simulation

open Machine (TaskId Action)

/-- What happens at some later time. -/
inductive Alarm where
  | timer (t : TaskId)
  | reply (t : TaskId) (r : Option Outcome)

def Alarm.task : Alarm → TaskId
  | timer t | reply t _ => t

/-- What the foreground waits for. -/
inductive Goal where
  /-- A task has come to its end. -/
  | ended (t : TaskId)
  | time (d : Duration)
  /-- A subscriber can read a change, or time is up. -/
  | change (subscription : Nat) (d : Duration)

/-- When a goal is reached by waiting alone. -/
def Goal.deadline? : Goal → Option Duration
  | ended _ => none
  | time d => some d
  | change _ d => some d

end Simulation

open Simulation Machine in
structure Simulation where
  machine : Machine
  endpoint : Endpoint := {}
  /-- Alarms by time, those of one time in the order in which they were set. -/
  agenda : List (Duration × Alarm) := []
  /-- What happens to tasks instead of their next turn, the first that fits. -/
  fates : List (TaskId × Action) := []
  /-- The task at work. -/
  working : Option TaskId := none
  /-- How many more waits may be over at once for whoever is at work. -/
  budget : Nat := 128
  /-- Tasks whose next turn begins with the end of a wait. -/
  waiting : List TaskId := []
  /-- Tasks that stepped aside until the round is over. -/
  aside : List TaskId := []
  /-- Alarms that tasks have to set when they come back. -/
  unset : List (Duration × Alarm) := []
  /-- The task that the foreground runs itself. -/
  foreground : Option TaskId := none
  /-- How many tasks may go before the foreground looks, or that it is looking. -/
  round : Option Nat := none

namespace Simulation

open Machine (TaskId Action)

/-- How many tasks go between two looks of the foreground at most. -/
def roundLength : Nat := 61

/-- How many waits may be over at once in one turn. -/
def fullBudget : Nat := 128

def now (s : Simulation) : Duration := s.machine.now

def act (s : Simulation) (a : Action) : Simulation := { s with machine := s.machine.act a }

/-! ## The queue and the agenda -/

/-- A task waits in the queue no longer. -/
def dequeue (s : Simulation) (t : TaskId) : Simulation :=
  { s with machine := { s.machine with ready := s.machine.ready.filter (· ≠ t) } }

def enqueue (s : Simulation) (t : TaskId) : Simulation :=
  { s with machine := { s.machine with ready := s.machine.ready ++ [t] } }

/-- Nothing happens to a task at a later time. -/
def forget (s : Simulation) (t : TaskId) : Simulation :=
  { s with agenda := s.agenda.filter (·.2.task ≠ t) }

/-- Put an alarm behind all that are not later. -/
def insertAlarm (d : Duration) (a : Alarm) : List (Duration × Alarm) → List (Duration × Alarm)
  | [] => [(d, a)]
  | (d', a') :: rest =>
    if d < d' then (d, a) :: (d', a') :: rest else (d', a') :: insertAlarm d a rest

/-- An alarm goes off. What takes a task down does so when the task has its turn. -/
def goOff (s : Simulation) : Alarm → Simulation
  | .timer t => s.act (.fire t)
  | .reply t (some r) => s.act (.answer t r)
  | .reply t none => { s.enqueue t with fates := s.fates ++ [(t, .crash t)] }

/-- The alarm of a task at work is due at once, so that it need not wait in the queue. -/
def goOffAtOnce (s : Simulation) : Alarm → Simulation
  | .reply t none => s.act (.crash t)
  | a => (s.goOff a).dequeue a.task

/-- A task that had its share of waits stops working until the round is over. -/
def stepAside (s : Simulation) (t : TaskId) : Simulation :=
  { s with working := none, aside := s.aside ++ [t] }

/-- A task at work sets its alarm. -/
def due (s : Simulation) (d : Duration) (a : Alarm) : Simulation :=
  if s.budget = 0 then { s.stepAside a.task with unset := s.unset ++ [(d, a)] }
  else if d ≤ s.now then { s with budget := s.budget - 1 }.goOffAtOnce a
  else { s with agenda := insertAlarm d a s.agenda }

/-! ## Tasks -/

/-- A task that has come to wait for the endpoint or for time sets its alarm, and a loop that
stops needs none. -/
def settle (s : Simulation) (t : TaskId) : Simulation :=
  match s.machine.activity? t with
  | some (.calling q _) | some (.polling q _) =>
    let (delivery, endpoint) := s.endpoint.receive q
    let s := { s with endpoint := endpoint }
    let alarm := .reply t delivery.outcome
    match delivery.delay with
    | none => s.goOffAtOnce alarm
    | some d => s.due (s.now + d) alarm
  | some (.sleeping d _) | some (.pausing d (.loop _ false)) => s.due d (.timer t)
  | _ => s

/-- The task at work takes a step, or stops working because it cannot. -/
def work (s : Simulation) (t : TaskId) : Simulation :=
  match s.machine.activity? t with
  | some (.seeking _) =>
    if s.budget = 0 then s.stepAside t
    else
      let free := s.machine.turn.holder.isNone
      { s with budget := if free then s.budget - 1 else s.budget }.act (.step t) |>.settle t
  | some a =>
    if a.canRun then (s.act (.step t)).settle t
    else { s with working := none, waiting := if a.isOver then s.waiting else t :: s.waiting }
  | none => { s with working := none }

/-- A task gets its turn. -/
def begin (s : Simulation) (t : TaskId) : Simulation :=
  let s := (s.forget t).dequeue t
  let unset := s.unset.find? (·.2.task = t)
  let waited := s.waiting.contains t
  let s := { s with
    unset := s.unset.filter (·.2.task ≠ t)
    waiting := s.waiting.filter (· ≠ t)
    budget := if waited then fullBudget - 1 else fullBudget }
  match s.fates.find? (·.1 = t), unset with
  | some (_, fate), _ => { s.act fate with fates := s.fates.filter (·.1 ≠ t) }
  | none, some (d, a) => { s with working := some t }.due d a
  | none, none => { s with working := some t }

/-- Those who stepped aside wait in the queue again. -/
def comeBack (s : Simulation) : Simulation :=
  s.aside.foldl (fun s t => if (s.machine.activity? t).all (·.isOver) then s else (s.dequeue t).enqueue t)
    { s with aside := [] }

/-- The task that goes next. -/
def next? (s : Simulation) : Option TaskId :=
  s.machine.ready.find? fun t => s.foreground ≠ some t

/-- The foreground has something to do for the task that it runs. -/
def isCalled (s : Simulation) : Bool := s.machine.ready.any fun t => s.foreground = some t

/-! ## The clock -/

/-- The next time at which something happens. -/
def nextTime? (s : Simulation) (goal : Goal) : Option Duration :=
  match s.agenda.head?.map (·.1), goal.deadline? with
  | some a, some b => some (min a b)
  | a, b => a <|> b

/-- The clock moves on and everything that is due happens. -/
def advanceTo (s : Simulation) (d : Duration) : Simulation :=
  let (now, later) := s.agenda.partition (·.1 ≤ d)
  (now.map (·.2)).foldl goOff { s.act (.pass (d - s.now)) with agenda := later }

/-! ## Runs -/

/-- The goal is reached. -/
def reached (s : Simulation) : Goal → Bool
  | .ended t => (s.machine.activity? t).all (·.isOver)
  | .time d => d ≤ s.now
  | .change i d => (s.machine.receive i).isSome || d ≤ s.now

/-- The foreground has its own program to wait for, or something that takes a wait. -/
def cost (s : Simulation) : Goal → Nat
  | .ended t => if s.foreground = some t then 0 else 1
  | _ => 1

/-- The foreground is looking and finds its goal reached. -/
def isDone (s : Simulation) (goal : Goal) : Bool :=
  s.working.isNone && s.round.isNone && s.cost goal ≤ s.budget && s.reached goal

/-- The next thing that happens on the way to a goal. -/
def tick (s : Simulation) (goal : Goal) : Option Simulation :=
  match s.working with
  | some t => some (s.work t)
  | none =>
    match s.round with
    | none => some { s with round := some roundLength }
    | some 0 =>
      let s := { s.comeBack with round := none, budget := fullBudget }
      match s.foreground with
      | some t => some (if s.isCalled then s.begin t else s)
      | none => some s
    | some (n + 1) =>
      match s.next? with
      | some t => some ({ s with round := some n }.begin t)
      | none =>
        if !s.aside.isEmpty || s.reached goal || s.isCalled then some { s with round := some 0 }
        else (s.nextTime? goal).map fun d => { s.advanceTo d with round := some 0 }

/-- Go on until the goal is reached, nothing can happen any more, or the fuel is used up. -/
def goOn : Nat → Goal → Simulation → Simulation
  | 0, _, s => s
  | fuel + 1, goal, s =>
    if s.isDone goal then { s with budget := s.budget - s.cost goal }
    else
      match s.tick goal with
      | none => { s with round := none }
      | some s' => goOn fuel goal s'

/-- More steps than any simulation that ends within a lifetime takes. -/
def lifetime : Nat := 1 <<< 60

def await (s : Simulation) (goal : Goal) : Simulation := goOn lifetime goal s

/-- Let time pass. -/
def pass (s : Simulation) (d : Duration) : Simulation := s.await (.time (s.now + d))

/-- A caller comes with a program and waits in the queue. -/
def launch (s : Simulation) (p : Program) : TaskId × Simulation :=
  (s.machine.tasks.size, s.act (.launch p))

/-- The foreground runs a program to its end. -/
def perform (s : Simulation) (p : Program) : TaskId × Simulation :=
  let (t, s) := s.launch p
  let s := { s.dequeue t with foreground := some t, working := some t }
  (t, { s.await (.ended t) with foreground := none })

/-- A caller goes away as soon as it has its turn. -/
def abort (s : Simulation) (t : TaskId) : Simulation :=
  if (s.machine.activity? t).all (·.isOver) then s
  else { s.enqueue t with fates := (t, .abort t) :: s.fates }

end Simulation

end EthRpc
