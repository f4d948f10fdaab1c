-- SUMMARY: The stage that answers from a cache, with keys that live as long as their answers hold.
import EthRpc.Stage.BlockParam

/-!
# The block cache

The key of a request holds all that its answer depends on: the request itself,
for a block method the pinned request, for a head method the head number as
well. A request without a key goes through.
-/

namespace EthRpc

namespace Program

/-- A result may be kept: it says something, and names its block if the method asks for that. -/
def storable (spec : MethodSpec) (result : Json) : Bool :=
  !result.isEmptyResult &&
    (!spec.requireBlockHash || ((result.get? "blockHash").any (!·.isNull)))

/-- Answer from a cache, or ask below and keep the answer. -/
def cached (cache : Nat) (spec : MethodSpec) (key : String) (q : Request)
    (next : Request → Program) : Program :=
  .ask (.lookup cache key) fun
    | some v => .done (.ok v)
    | none =>
      (next q).andThen fun v =>
        if storable spec v then .ask (.keep cache key v) fun _ => .done (.ok v)
        else .done (.ok v)

end Program

/-- The key of a request to a head method. -/
def Request.headKey (q : Request) (head : Nat) : String := Quantity.text head ++ "@" ++ q.fingerprint

namespace Stage

/-- The stage that answers from the cache of the given index. -/
def blockCache (methods : MethodTable) (cache : Nat) : Stage where
  name := "block-cache"
  handle q next :=
    let spec := methods.spec q.method
    match spec.cache with
    | .never => next q
    | .permanent => .cached cache spec q.fingerprint q next
    | .block => .normalizing spec q fun n =>
      match n.block with
      | .absent | .concrete _ => .cached cache spec n.request.fingerprint n.request next
      | _ => next n.request
    | .head => .ask (.query .latest) fun
      | .ok h => .cached cache spec (q.headKey h.number) q next
      | .error _ => next q

end Stage

end EthRpc
