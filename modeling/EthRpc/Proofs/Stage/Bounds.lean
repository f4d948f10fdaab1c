-- SUMMARY: What the stages do on their own: behind the cache they only ask for the head, wait and count, and one of them shares.
import EthRpc.Proofs.Program.Within
import EthRpc.Proofs.Stage.BlockParam
import EthRpc.Stage.BlockCache
import EthRpc.Stage.Inflight
import EthRpc.Stage.Inspector
import EthRpc.Stage.RetryOnEmpty

/-!
# Bounds of stages

The program of a stage is built on those of the stages below. What it does on its
own are a few commands, so what bounds the stages below bounds it as well, and
what they fail by is what it fails by.
-/

namespace EthRpc

/-- A command that asks for the head, waits or counts how often a request is made again. -/
def Command.IsMinor : Command → Prop
  | .query _ | .currentHead | .sleep _ | .count .retries | .count .exhausted => True
  | _ => False

/-- A command that counts nothing, or else how often a request is made again. -/
def Command.CountsRetries (c : Command) : Prop := ∀ n, c = .count n → n = .retries ∨ n = .exhausted

theorem Command.IsMinor.countsRetries {c : Command} (h : c.IsMinor) : c.CountsRetries := by
  rintro n rfl
  cases n with
  | retries => exact .inl rfl
  | exhausted => exact .inr rfl
  | _ => cases h

theorem Command.Uses.countsRetries {i : Nat} {key : String} {c : Command} (h : c.Uses i key) :
    c.CountsRetries := by
  cases h <;> nofun

open Command (IsMinor)

variable {C : Command → Prop} {N : Program → Prop} {S : Nat → String → Program → Prop}
  {q : Request} {next : Request → Program}

theorem Stage.inspector_builtOn :
    (Stage.inspector.handle q next).BuiltOn IsMinor (· = next q) := by
  refine .andThen rfl fun v => ?_
  split
  · exact .ok
  · exact .ask trivial fun _ => .ok

/-! ## Asking again -/

namespace Program

theorem withRefreshedHead_builtOn {k : Option BlockHead → Program}
    (hk : ∀ h, (k h).BuiltOn IsMinor N) : (withRefreshedHead k).BuiltOn IsMinor N := by
  refine .ask trivial fun r => ?_
  cases r with
  | ok h => exact hk (some h)
  | error e => exact .ask trivial hk

theorem retryPaused_builtOn (interval : Duration) (left : Nat) (retried : Bool)
    (baseline : Option BlockHead) (result : Json) :
    (retryPaused interval q next left retried baseline result).BuiltOn IsMinor (· = next q) := by
  induction left generalizing retried baseline result with
  | zero =>
    simp only [retryPaused]
    split
    · exact .ask trivial fun _ => .ok
    · exact .ok
  | succ left ih =>
    simp only [retryPaused]
    split
    · refine .ask trivial fun _ => .ask trivial fun _ => ?_
      refine withRefreshedHead_builtOn fun head => ?_
      split
      · exact .ok
      · exact .andThen rfl fun v => ih true (baseline <|> head) v
    · exact .ok

theorem retryOnNewHead_builtOn (left : Nat) (seen : BlockHead) (result : Json) :
    (retryOnNewHead q next left seen result).BuiltOn IsMinor (· = next q) := by
  induction left generalizing seen result with
  | zero => exact .ok
  | succ left ih =>
    simp only [retryOnNewHead]
    split
    · refine .ask trivial fun r => ?_
      cases r with
      | error e => exact .ok
      | ok head =>
        dsimp only
        split
        · exact .ok
        · exact .ask trivial fun _ => .andThen rfl fun v => ih head v
    · exact .ok

theorem askPaused_builtOn (settings : RetrySettings) :
    (askPaused settings q next).BuiltOn IsMinor (· = next q) := by
  refine .andThen rfl fun v => .ask trivial fun baseline => ?_
  exact retryPaused_builtOn settings.interval _ _ _ v

theorem askOnNewHead_builtOn (settings : RetrySettings) :
    (askOnNewHead settings q next).BuiltOn IsMinor (· = next q) := by
  refine .ask trivial fun issuedAt => .andThen rfl fun v => ?_
  cases issuedAt with
  | none => exact .ok
  | some seen => exact retryOnNewHead_builtOn _ seen v

end Program

theorem Stage.retryOnEmpty_builtOn (methods : MethodTable) (settings : RetrySettings) :
    ((Stage.retryOnEmpty methods settings).handle q next).BuiltOn IsMinor (· = next q) := by
  simp only [Stage.retryOnEmpty]
  split
  · split
    · exact Program.askOnNewHead_builtOn settings
    · refine .ask trivial fun r => ?_
      cases r with
      | error e => exact .base rfl
      | ok head =>
        dsimp only
        split
        · exact Program.askPaused_builtOn settings
        · exact .base rfl
    · exact .base rfl
  · exact .base rfl

/-! ## Pinning -/

theorem Program.normalizing_builtOn {spec : MethodSpec} {k : Normalized → Program}
    (hC : ∀ c : Command, c.IsMinor → C c)
    (hk : ∀ n, Normalized.Normalizes (fun _ => True) spec q n → (k n).BuiltOn C N) :
    (normalizing spec q k).BuiltOn C N := by
  unfold normalizing
  split
  next n hplan => exact hk n (.settled hplan)
  next resume hplan =>
    refine .ask (hC _ trivial) fun answer => ?_
    cases answer with
    | ok h => exact hk _ (.known hplan trivial)
    | error e => exact hk _ (.unknown hplan)

theorem Stage.blockRef_builtOn (methods : MethodTable) :
    ((Stage.blockRef methods).handle q next).BuiltOn IsMinor (fun p => ∃ q', p = next q') := by
  simp only [Stage.blockRef]
  split
  · exact .base ⟨q, rfl⟩
  · exact Program.normalizing_builtOn (fun _ => id) fun n _ => .base ⟨n.request, rfl⟩

/-! ## Sharing and caching -/

theorem Stage.inflight_eq_share {methods : MethodTable} (h : (methods.spec q.method).cache ≠ .never)
    (table : Nat) (next : Request → Program) :
    (Stage.inflight methods table).handle q next = .share table q.fingerprint (next q) .done := by
  cases hcache : (methods.spec q.method).cache with
  | never => exact absurd hcache h
  | _ => simp only [Stage.inflight, hcache]

theorem Stage.inflight_within (methods : MethodTable) {table : Nat}
    (hshare : S table q.fingerprint (next q)) (hnext : (next q).Within C S) :
    ((Stage.inflight methods table).handle q next).Within C S := by
  simp only [Stage.inflight]
  split
  · exact hnext
  · exact ⟨hshare, fun _ => trivial⟩

theorem Program.cached_builtOn {cache : Nat} {key : String} {spec : MethodSpec} :
    (cached cache spec key q next).BuiltOn (·.Uses cache key) (· = next q) := by
  refine .ask .lookup fun found => ?_
  cases found with
  | some v => exact .ok
  | none =>
    refine .andThen rfl fun v => ?_
    split
    · exact .ask .keep fun _ => .ok
    · exact .ok

end EthRpc
