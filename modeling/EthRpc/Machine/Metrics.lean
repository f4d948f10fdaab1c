-- SUMMARY: What a client counts about itself, by name.
import EthRpc.Machine.Basic

/-!
# Metrics

Counters are whole numbers. The gauge of the head number is kept as a double, so
large numbers are rounded. What is zero is not listed.
-/

namespace EthRpc

/-- What a gauge shows after it was set to a number. -/
def gaugeLevel (n : Nat) : Nat := min (Binary64.truncate (Binary64.ofNat n)) (1 <<< 64 - 1)

/-- Levels by name, without those that are zero. -/
def nonzeroLevels (levels : List (String × Nat)) : Dict Nat :=
  Dict.ofList (levels.filter (·.2 ≠ 0))

namespace Machine

def metrics (m : Machine) : Dict Nat :=
  nonzeroLevels [
    ("block_cache.hits", m.tally.hits),
    ("block_cache.misses", m.tally.misses),
    ("inflight_dedup.led", m.tally.led),
    ("inflight_dedup.joined", m.tally.joined),
    ("retry_on_empty.retries", m.tally.retries),
    ("retry_on_empty.exhausted", m.tally.exhausted),
    ("block_tracker.polls", m.tally.polls),
    ("block_tracker.poll_failures", m.tally.pollFailures),
    ("block_tracker.head_number", (m.tracker.head?.map fun h => gaugeLevel h.number).getD 0)]

end Machine

end EthRpc
