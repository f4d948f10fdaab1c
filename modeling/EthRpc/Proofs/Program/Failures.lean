-- SUMMARY: Programs that fail only by passing on the error that they were told last.
import EthRpc.Proofs.Program.Within

/-!
# Failures

A program that is told of an error may go on, and may end with an error of its
own making. Those considered here do neither: when they fail, it is with the error
that the endpoint or a shared run has just given them, and nothing was done since.
What the tracker was asked for never is the reason.
-/

namespace EthRpc

/-- The error in an outcome. -/
def Outcome.failure? : Outcome → Option RpcError
  | .error e => some e
  | .ok _ => none

/-- The error with which the endpoint replied to a request. -/
def Command.failure? : (c : Command) → c.Reply → Option RpcError
  | .send _, r => Outcome.failure? r
  | _, _ => none

namespace Program

/-- A program that was last told of this error, if of any, fails with the error that it is told
last, if it fails. -/
def FailsBy : Program → Option RpcError → Prop
  | .done r, last => ∀ e, r = .error e → last = some e
  | .ask c k, _ => ∀ a, (k a).FailsBy (c.failure? a)
  | .share _ _ _ k, _ => ∀ r, (k r).FailsBy (Outcome.failure? r)

namespace FailsBy

variable {p : Program} {last : Option RpcError}

theorem ok (v : Json) : (done (.ok v)).FailsBy last := by
  rintro e ⟨⟩

/-- To end with an outcome that one has just been told is to fail by it. -/
theorem done (r : Outcome) : (Program.done r).FailsBy (Outcome.failure? r) := by
  rintro e rfl
  rfl

theorem send (q : Request) : (Program.send q).FailsBy last := fun r => .done r

/-- Who was told of no error does not fail before it is told of one. -/
theorem of_none (hp : p.FailsBy none) : p.FailsBy last := by
  cases p with
  | done r =>
    intro e he
    cases hp e he
  | ask c k => exact hp
  | share i key run k => exact hp

theorem bind {f : Outcome → Program} (hp : p.FailsBy last)
    (hf : ∀ r, (f r).FailsBy (Outcome.failure? r)) : (p.bind f).FailsBy last := by
  induction p generalizing last with
  | done r =>
    have hr := hf r
    cases r with
    | ok v => exact hr.of_none
    | error e =>
      rw [hp e rfl]
      exact hr
  | ask c k ih => exact fun a => ih a (hp a)
  | share i key run k _ ih => exact fun r => ih r (hp r)

theorem andThen {f : Json → Program} (hp : p.FailsBy last) (hf : ∀ v, (f v).FailsBy none) :
    (p.andThen f).FailsBy last := by
  refine hp.bind fun r => ?_
  cases r with
  | ok v => exact hf v
  | error e => exact .done (.error e)

end FailsBy

/-- Of a program that sends no requests of its own, only those that it is built on fail. -/
theorem BuiltOn.failsBy {C : Command → Prop} {N : Program → Prop} {p : Program}
    (hp : p.BuiltOn C N) (hC : ∀ q, ¬C (.send q)) (hN : ∀ p, N p → p.FailsBy none) :
    p.FailsBy none := by
  induction hp with
  | base h => exact hN _ h
  | ok => exact .ok _
  | @ask c k hc _ ih =>
    intro a
    have hnone : c.failure? a = none := by
      cases c with
      | send q => exact absurd hc (hC q)
      | _ => rfl
    rw [hnone]
    exact ih a
  | andThen h _ ih => exact (hN _ h).andThen ih

end Program

end EthRpc
