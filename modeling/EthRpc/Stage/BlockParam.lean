-- SUMMARY: The block parameter of a request: what it names and how it is pinned to a number.
import EthRpc.Block.Ref
import EthRpc.Method.Spec
import EthRpc.Stage.Basic

/-!
# Block parameters

Requests that read at `latest` are pinned to the number of the tracked head, and
numbers are rewritten in their canonical text, so that requests for the same
block are equal. Pinning may need the head: a plan says whether it does and
what the request becomes.
-/

namespace EthRpc

/-- What the block parameter of a request names. -/
inductive BlockParam where
  /-- The method has no block parameter. -/
  | absent
  /-- One block for ever, by its number or hash. -/
  | concrete (block : BlockRef)
  | latest
  | earliest
  /-- A tag whose block changes without the head. -/
  | volatile
  | unknown
  deriving DecidableEq

namespace BlockParam

def isConcrete : BlockParam → Bool
  | concrete _ => true
  | _ => false

def ofRef : BlockRef → BlockParam
  | .tag .latest => latest
  | .tag .earliest => earliest
  | .tag .pending | .tag .safe | .tag .finalized => volatile
  | .number n => concrete (.number n)
  | .hash h => concrete (.hash h)

/-- A missing parameter and `null` mean `latest`. -/
def classify (spec : MethodSpec) (q : Request) : BlockParam :=
  match spec.blockParam with
  | none => absent
  | some index =>
    match q.param? index with
    | none | some .null => latest
    | some v =>
      match BlockRef.ofJson? v with
      | some r => ofRef r
      | none => unknown

end BlockParam

/-- A request with its block parameter settled. -/
structure Normalized where
  request : Request
  block : BlockParam

namespace Normalized

/-- Put a number at the position of the block parameter, unless it is there in its canonical text. -/
def place (q : Request) (index n : Nat) (block : BlockParam) : Normalized :=
  if (q.param? index).bind Json.string? = some (Quantity.text n) then ⟨q, block⟩
  else
    match q.withParam? index (BlockRef.numberParam n) with
    | some pinned => ⟨pinned, .concrete (.number n)⟩
    | none => ⟨q, .unknown⟩

/-- The normalized request, at once or once the head is asked for. -/
inductive Plan where
  | settled (n : Normalized)
  | awaitsHead (resume : Except RpcError BlockHead → Normalized)

/-- Objects that name a block are left as they are, and so is a request whose head is not known. -/
def plan (spec : MethodSpec) (q : Request) : Plan :=
  match spec.blockParam with
  | none => .settled ⟨q, .absent⟩
  | some index =>
    let block := BlockParam.classify spec q
    match block with
    | .concrete (.number n) =>
      if (q.param? index).any Json.isObject then .settled ⟨q, block⟩
      else .settled (place q index n block)
    | .earliest => .settled (place q index 0 block)
    | .latest => .awaitsHead fun
      | .ok h => place q index h.number block
      | .error _ => ⟨q, block⟩
    | _ => .settled ⟨q, block⟩

end Normalized

namespace Program

/-- Go on with the normalized request. -/
def normalizing (spec : MethodSpec) (q : Request) (k : Normalized → Program) : Program :=
  match Normalized.plan spec q with
  | .settled n => k n
  | .awaitsHead resume => .ask (.query .latest) fun a => k (resume a)

end Program

/-- The stage that pins block parameters. -/
def Stage.blockRef (methods : MethodTable) : Stage where
  name := "block-ref"
  handle q next :=
    let spec := methods.spec q.method
    match spec.blockParam with
    | none => next q
    | some _ => .normalizing spec q fun n => next n.request

end EthRpc
