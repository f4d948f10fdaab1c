-- SUMMARY: What the stages behind the cache return is what the stages below them return for the pinned request.
import EthRpc.Proofs.Program.Obeys
import EthRpc.Proofs.Stage.BlockParam
import EthRpc.Stage.Inflight
import EthRpc.Stage.Inspector
import EthRpc.Stage.RetryOnEmpty

/-!
# Relays

The inspector and the stage that asks again return nothing of their own: they
keep any pledge that is kept below them. The stage that pins a block parameter
does so for the normalized request, and the stage that shares runs returns what
runs under the same fingerprint may return.
-/

namespace EthRpc

open Program (Obeys)

variable {F : Facts} {P : Pledge} {q : Request} {next : Request → Program}

/-! ## Looking at a response -/

theorem Stage.inspector_obeys (hnext : (next q).Obeys F P) :
    (Stage.inspector.handle q next).Obeys F P := by
  refine Obeys.andThen hnext ?_
  intro v hv
  split
  next => exact .ok hv
  next n hn =>
    refine ⟨trivial, ?_⟩
    intro _ _
    exact .ok hv

/-! ## Asking again -/

namespace Program

theorem withRefreshedHead_obeys {k : Option BlockHead → Program} (hk : ∀ h, (k h).Obeys F P) :
    (withRefreshedHead k).Obeys F P := by
  refine ⟨trivial, ?_⟩
  intro a _
  cases a with
  | ok h => exact hk (some h)
  | error e =>
    refine ⟨trivial, ?_⟩
    intro h _
    exact hk h

theorem retryPaused_obeys (interval : Duration) (hnext : (next q).Obeys F P) (left : Nat)
    (retried : Bool) (baseline : Option BlockHead) (result : Json) (hresult : P.returns result) :
    (retryPaused interval q next left retried baseline result).Obeys F P := by
  induction left generalizing retried baseline result with
  | zero =>
    simp only [retryPaused]
    split
    · refine ⟨trivial, ?_⟩
      intro _ _
      exact .ok hresult
    · exact .ok hresult
  | succ left ih =>
    simp only [retryPaused]
    split
    · refine ⟨trivial, fun _ _ => ?_⟩
      refine ⟨trivial, fun _ _ => ?_⟩
      refine withRefreshedHead_obeys fun head => ?_
      split
      · exact .ok hresult
      · refine .andThen hnext ?_
        intro v hv
        exact ih true (baseline <|> head) v hv
    · exact .ok hresult

theorem retryOnNewHead_obeys (hnext : (next q).Obeys F P) (left : Nat) (seen : BlockHead)
    (result : Json) (hresult : P.returns result) :
    (retryOnNewHead q next left seen result).Obeys F P := by
  induction left generalizing seen result with
  | zero => exact .ok hresult
  | succ left ih =>
    simp only [retryOnNewHead]
    split
    · refine ⟨trivial, ?_⟩
      intro a _
      cases a with
      | error e => exact .ok hresult
      | ok head =>
        dsimp only
        split
        · exact .ok hresult
        · refine ⟨trivial, fun _ _ => ?_⟩
          refine .andThen hnext ?_
          intro v hv
          exact ih head v hv
    · exact .ok hresult

theorem askPaused_obeys (settings : RetrySettings) (hnext : (next q).Obeys F P) :
    (askPaused settings q next).Obeys F P := by
  refine .andThen hnext ?_
  intro v hv
  refine ⟨trivial, ?_⟩
  intro baseline _
  exact retryPaused_obeys settings.interval hnext _ _ _ v hv

theorem askOnNewHead_obeys (settings : RetrySettings) (hnext : (next q).Obeys F P) :
    (askOnNewHead settings q next).Obeys F P := by
  refine ⟨trivial, ?_⟩
  intro issuedAt _
  refine .andThen hnext ?_
  intro v hv
  cases issuedAt with
  | none => exact .ok hv
  | some seen => exact retryOnNewHead_obeys hnext _ seen v hv

end Program

theorem Stage.retryOnEmpty_obeys (methods : MethodTable) (settings : RetrySettings)
    (hnext : (next q).Obeys F P) :
    ((Stage.retryOnEmpty methods settings).handle q next).Obeys F P := by
  simp only [Stage.retryOnEmpty]
  split
  · split
    · exact Program.askOnNewHead_obeys settings hnext
    · refine ⟨trivial, ?_⟩
      intro a _
      cases a with
      | error e => exact hnext
      | ok head =>
        dsimp only
        split
        · exact Program.askPaused_obeys settings hnext
        · exact hnext
    · exact hnext
  · exact hnext

/-! ## Pinning -/

/-- What follows may rely on the request being one to which it may be normalized. -/
theorem Program.normalizing_obeys {spec : MethodSpec} {k : Normalized → Program}
    (hk : ∀ n, Normalized.Normalizes F.reported spec q n → (k n).Obeys F P) :
    (Program.normalizing spec q k).Obeys F P := by
  unfold Program.normalizing
  split
  next n hplan => exact hk n (.settled hplan)
  next resume hplan =>
    refine ⟨trivial, ?_⟩
    intro a ha
    cases a with
    | ok h => exact hk _ (.known hplan (ha h rfl))
    | error e => exact hk _ (.unknown hplan)

/-- The answer to a request is one to a request to which it may be normalized. -/
theorem Stage.blockRef_obeys (methods : MethodTable)
    (hnext : ∀ n, Normalized.Normalizes F.reported (methods.spec q.method) q n →
      (next n.request).Obeys F P) :
    ((Stage.blockRef methods).handle q next).Obeys F P := by
  simp only [Stage.blockRef]
  split
  next hparam =>
    have hplan : Normalized.plan (methods.spec q.method) q = .settled ⟨q, .absent⟩ := by
      simp only [Normalized.plan, hparam]
    exact hnext ⟨q, .absent⟩ (.settled hplan)
  next => exact Program.normalizing_obeys hnext

/-! ## Sharing -/

theorem Stage.inflight_obeys {methods : MethodTable} {table : Nat}
    (hnext : (next q).Obeys F (.only (F.shared table q.fingerprint)))
    (hshared : ∀ v, F.shared table q.fingerprint v → P.returns v) :
    ((Stage.inflight methods table).handle q next).Obeys F P := by
  simp only [Stage.inflight]
  split
  · exact hnext.of_only hshared
  · exact ⟨hnext, fun r hr v hv => hshared v (hr v hv)⟩

end EthRpc
