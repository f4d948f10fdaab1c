-- SUMMARY: A map of bounded size that forgets what was used longest ago.
import EthRpc.Dict

/-!
# Bounded maps

Entries stand in order of use, the most recent first. Reading with `get?` and
writing count as use; `peek?` does not. A new key in a full map pushes out the
last entry, and a map without room stores nothing.
-/

namespace EthRpc

structure Lru (α : Type) where
  capacity : Nat
  entries : List (String × α)

namespace Lru

variable {α : Type}

def empty (capacity : Nat) : Lru α := ⟨capacity, []⟩

def length (m : Lru α) : Nat := m.entries.length

def peek? (m : Lru α) (key : String) : Option α := m.entries.lookup key

/-- The entries without a key. -/
def without (key : String) (entries : List (String × α)) : List (String × α) :=
  entries.filter (·.1 ≠ key)

/-- Read a value and make it the most recent. -/
def get? (m : Lru α) (key : String) : Option (α × Lru α) :=
  (m.peek? key).map fun v => (v, { m with entries := (key, v) :: without key m.entries })

/-- Store a value as the most recent; false if there is no room for any. -/
def insert (m : Lru α) (key : String) (value : α) : Bool × Lru α :=
  if m.capacity = 0 then (false, m)
  else (true, { m with entries := ((key, value) :: without key m.entries).take m.capacity })

def remove (m : Lru α) (key : String) : Option (α × Lru α) :=
  (m.peek? key).map fun v => (v, { m with entries := without key m.entries })

def clear (m : Lru α) : Lru α := { m with entries := [] }

def newest? (m : Lru α) : Option String := m.entries.head?.map (·.1)

def oldest? (m : Lru α) : Option String := m.entries.getLast?.map (·.1)

/-- Bounds and size for diagnostics. -/
def describe (m : Lru α) : String :=
  "LruMap \x7b limiter: ByLength \x7b max_length: " ++ toString m.capacity ++ " \x7d, len: "
    ++ toString m.length ++ " \x7d"

end Lru

end EthRpc
