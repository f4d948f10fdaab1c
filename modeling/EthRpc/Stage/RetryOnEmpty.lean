-- SUMMARY: The stage that asks again when a node has not caught up and answers with nothing.
import EthRpc.Stage.BlockParam

/-!
# Empty results

A node behind a load balancer may lag and answer `null` for a block that exists.
A request for a block that is not above the head is asked again after a pause,
a bounded number of times, unless the head is seen to have gone back. A request
without block parameter is asked again only as long as each time the head has
moved on. All other requests are asked once.
-/

namespace EthRpc

structure RetrySettings where
  /-- The first time included. -/
  maxAttempts : Nat
  interval : Duration
  deriving DecidableEq

def RetrySettings.default : RetrySettings := ⟨10, .ofSeconds 1⟩

namespace Program

/-- Go on with the latest head, or with the known one if asking fails. -/
def withRefreshedHead (k : Option BlockHead → Program) : Program :=
  .ask (.query .latest) fun
    | .ok h => k (some h)
    | .error _ => .ask .currentHead k

/-- The head went back behind the one seen first. -/
def regressed : Option BlockHead → Option BlockHead → Bool
  | some baseline, some head => head.number < baseline.number
  | _, _ => false

/-- Ask again up to `left` times for a block that should be there, which was asked for before. -/
def retryPaused (interval : Duration) (q : Request) (next : Request → Program) :
    (left : Nat) → (retried : Bool) → (baseline : Option BlockHead) → (result : Json) → Program
  | 0, retried, _, result =>
    if result.isEmptyResult ∧ retried then .ask (.count .exhausted) fun _ => .done (.ok result)
    else .done (.ok result)
  | left + 1, _, baseline, result =>
    if result.isEmptyResult then
      .ask (.count .retries) fun _ =>
        .ask (.sleep interval) fun _ =>
          withRefreshedHead fun head =>
            if regressed baseline head then .done (.ok result)
            else (next q).andThen fun r => retryPaused interval q next left true (baseline <|> head) r
    else .done (.ok result)

/-- Ask again up to `left` times as long as the head moves above the one asked at. -/
def retryOnNewHead (q : Request) (next : Request → Program) :
    (left : Nat) → (seen : BlockHead) → (result : Json) → Program
  | 0, _, result => .done (.ok result)
  | left + 1, seen, result =>
    if result.isEmptyResult then
      .ask (.query .latest) fun
        | .error _ => .done (.ok result)
        | .ok head =>
          if head.number ≤ seen.number then .done (.ok result)
          else
            .ask (.count .retries) fun _ =>
              (next q).andThen fun r => retryOnNewHead q next left head r
    else .done (.ok result)

/-- Ask for a block that is not above the head. -/
def askPaused (settings : RetrySettings) (q : Request) (next : Request → Program) : Program :=
  (next q).andThen fun r =>
    .ask .currentHead fun baseline =>
      retryPaused settings.interval q next (settings.maxAttempts - 1) false baseline r

/-- Ask for something that appears with some block. -/
def askOnNewHead (settings : RetrySettings) (q : Request) (next : Request → Program) : Program :=
  .ask .currentHead fun issuedAt =>
    (next q).andThen fun r =>
      match issuedAt with
      | none => .done (.ok r)
      | some seen => retryOnNewHead q next (settings.maxAttempts - 1) seen r

end Program

/-- The stage that asks again for empty results. -/
def Stage.retryOnEmpty (methods : MethodTable) (settings : RetrySettings) : Stage where
  name := "retry-on-empty"
  handle q next :=
    let spec := methods.spec q.method
    if spec.retryOnEmpty then
      match BlockParam.classify spec q with
      | .absent => .askOnNewHead settings q next
      | .concrete (.number n) => .ask (.query .latest) fun
        | .ok head => if n ≤ head.number then .askPaused settings q next else next q
        | .error _ => next q
      | _ => next q
    else next q

end EthRpc
