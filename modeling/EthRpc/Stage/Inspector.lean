-- SUMMARY: The stage that notices when a response is ahead of the tracked head.
import EthRpc.Quantity
import EthRpc.Stage.Basic

/-!
# Inspecting responses

A transaction, receipt or block names the block it belongs to. If that block is
above the tracked head, the tracker polls before the response goes on. The
response itself is never changed.
-/

namespace EthRpc

/-- The block number in a response. -/
def Json.blockNumber? (result : Json) : Option Nat :=
  match result.get? "blockNumber" with
  | some v => v.string?.bind Quantity.strict?
  | none => ((result.get? "number").bind Json.string?).bind Quantity.strict?

/-- The stage that has the tracker catch up with responses. -/
def Stage.inspector : Stage where
  name := "block-tracker-inspector"
  handle q next :=
    (next q).andThen fun result =>
      match result.blockNumber? with
      | none => .done (.ok result)
      | some n => .ask (.query (.ifBehind n)) fun _ => .done (.ok result)

end EthRpc
