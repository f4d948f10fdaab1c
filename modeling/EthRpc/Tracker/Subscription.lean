-- SUMMARY: Reading the changes of the head one by one, with a bounded backlog.
import EthRpc.Tracker.Basic

/-!
# Subscriptions

A subscription is a position in the history of changes. Only the last 64 changes
can still be read: who is further behind is told so once, and reads on with the
oldest of these.
-/

namespace EthRpc

/-- How many changes wait for a subscriber at most. -/
def Tracker.backlog : Nat := 64

structure Subscription where
  /-- How many changes were read, skipped, or made before it began. -/
  position : Nat
  deriving DecidableEq

namespace Subscription

/-- What a subscriber who reads once is told. -/
inductive Reading where
  | change (c : HeadChange)
  /-- So many changes can no longer be read. -/
  | lagged (missed : Nat)
  | empty

/-- Only changes from now on are read. -/
def start (t : Tracker) : Subscription := ⟨t.changes.length⟩

/-- Where the changes begin that can still be read. -/
def oldest (t : Tracker) : Nat := t.changes.length - Tracker.backlog

/-- Read once. -/
def read (s : Subscription) (t : Tracker) : Reading × Subscription :=
  if s.position < oldest t then (.lagged (oldest t - s.position), ⟨oldest t⟩)
  else
    match t.changes[s.position]? with
    | some c => (.change c, ⟨s.position + 1⟩)
    | none => (.empty, s)

/-- Who is told of a lag is not behind any more. -/
theorem oldest_sub_lt_of_lagged {s s' : Subscription} {t : Tracker} {missed : Nat}
    (h : s.read t = (.lagged missed, s')) :
    oldest t - s'.position < oldest t - s.position := by
  unfold read at h
  split at h
  next hbehind =>
    cases h
    rw [Nat.sub_self]
    exact Nat.sub_pos_of_lt hbehind
  next => split at h <;> cases h

/-- The next change, if one is there. Who is told of a lag reads again. -/
def next? (s : Subscription) (t : Tracker) : Option (HeadChange × Subscription) :=
  match h : s.read t with
  | (.change c, s') => some (c, s')
  | (.lagged _, s') =>
    have := oldest_sub_lt_of_lagged h
    s'.next? t
  | (.empty, _) => none
termination_by oldest t - s.position

end Subscription

end EthRpc
