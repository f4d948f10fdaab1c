-- SUMMARY: Taking turns at polling, first come first served.

/-!
# Turns

One task at a time holds the turn. Others wait in the order of their coming, and
the turn passes to the first of them without a moment in between.
-/

namespace EthRpc

structure Turn where
  holder : Option Nat
  waiting : List Nat
  deriving DecidableEq

namespace Turn

def free : Turn := ⟨none, []⟩

/-- Take the turn if it is free, or wait for it. -/
def ask (t : Turn) (task : Nat) : Turn :=
  match t.holder with
  | none => { t with holder := some task }
  | some _ => { t with waiting := t.waiting ++ [task] }

/-- Pass the turn on to the first who waits. -/
def pass (t : Turn) : Turn :=
  match t.waiting with
  | [] => ⟨none, []⟩
  | next :: rest => ⟨some next, rest⟩

/-- Wait no longer. -/
def leave (t : Turn) (task : Nat) : Turn :=
  { t with waiting := t.waiting.filter (· ≠ task) }

end Turn

end EthRpc
