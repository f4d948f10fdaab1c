-- SUMMARY: The stage that lets concurrent equal requests share one run.
import EthRpc.Method.Spec
import EthRpc.Stage.Basic

/-!
# Requests in flight

Equal requests to a method that may be cached share one run. The first of them
leads it and the others join it; all get its outcome.
-/

namespace EthRpc

/-- The stage that shares runs by the table of the given index. -/
def Stage.inflight (methods : MethodTable) (table : Nat) : Stage where
  name := "inflight"
  handle q next :=
    match (methods.spec q.method).cache with
    | .never => next q
    | _ => .share table q.fingerprint (next q) .done

end EthRpc
