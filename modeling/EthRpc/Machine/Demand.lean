-- SUMMARY: What a client that cannot go on by itself waits for.
import EthRpc.Machine.Step

/-!
# Demands

Whoever runs a client for real lets its tasks work while they can, and then has
to know what they wait for: a request that is to be sent for one of them, or a
time. Requests come first, and of several times the earliest.
-/

namespace EthRpc.Machine

inductive Demand where
  | exchange (t : TaskId) (q : EthRpc.Request)
  | time (t : TaskId) (d : Duration)

/-- What a task waits for outside the client. -/
def demandOf (t : TaskId) : Activity → Option Demand
  | .calling q _ | .polling q _ => some (.exchange t q)
  | .sleeping d _ | .pausing d _ => some (.time t d)
  | _ => none

def demands (m : Machine) : List Demand :=
  m.tasks.toList.zipIdx.filterMap fun (task, t) => demandOf t task.activity

/-- The better one to meet of two demands. -/
def Demand.sooner : Demand → Demand → Demand
  | .time t d, .time t' d' => if d' < d then .time t' d' else .time t d
  | .time _ _, e => e
  | e, _ => e

/-- The demand to meet next. -/
def nextDemand? (m : Machine) : Option Demand :=
  match m.demands with
  | [] => none
  | d :: ds => some (ds.foldl Demand.sooner d)

/-- The next task that can run takes one step, and stays in front if it can go on. -/
def work? (m : Machine) : Option Machine :=
  match m.ready with
  | [] => none
  | t :: rest =>
    let m := { m with ready := rest }.act (.step t)
    some (if (m.activity? t).any (·.canRun) then { m with ready := t :: m.ready } else m)

/-- Tell a client what time it is. -/
def setClock (m : Machine) (d : Duration) : Machine := m.act (.pass (d - m.now))

end EthRpc.Machine
