-- SUMMARY: What a program does with what it learns: a logic of pledges, sound for all who run meanwhile.
import EthRpc.Program

/-!
# Pledges

A program obeys a pledge if all that it keeps and all that it returns is as
pledged, whatever it learns on the way. What it may learn is given as facts, the
same for all programs of a client: one program owes what the others may rely on.
-/

namespace EthRpc

/-! ## Facts and pledges -/

/-- What may come from outside. -/
structure Upstream where
  /-- The endpoint answers a request with this. -/
  answered : Request → Json → Prop
  /-- A poll reports this head. -/
  reported : BlockHead → Prop

/-- What programs may learn. -/
structure Facts extends Upstream where
  /-- A cache holds this. -/
  cached : Nat → String → Json → Prop
  /-- A shared run returns this. -/
  shared : Nat → String → Json → Prop

namespace Facts

/-- The replies that a program has to be ready for. Errors are always possible. -/
def Allows (F : Facts) : (c : Command) → c.Reply → Prop
  | .send q, r => ∀ v, r = .ok v → F.answered q v
  | .query .latest, r => ∀ h, r = .ok h → F.reported h
  | .query .check, r => ∀ h, r = .ok h → F.reported h
  | .query (.ifBehind _), r => ∀ h, r = .ok (some h) → F.reported h
  | .currentHead, h? => ∀ h, h? = some h → F.reported h
  | .lookup i key, v? => ∀ v, v? = some v → F.cached i key v
  | _, _ => True

/-- The outcomes of a shared run. -/
def Shares (F : Facts) (i : Nat) (key : String) (r : Outcome) : Prop :=
  ∀ v, r = .ok v → F.shared i key v

end Facts

/-- What a program may keep, and what it may return when it succeeds. -/
structure Pledge where
  keeps : Nat → String → Json → Prop
  returns : Json → Prop

namespace Pledge

/-- Keep nothing, and return no more than this. -/
def only (returns : Json → Prop) : Pledge := ⟨fun _ _ _ => False, returns⟩

/-- Keep what is pledged, and return this. -/
def returning (P : Pledge) (returns : Json → Prop) : Pledge := ⟨P.keeps, returns⟩

/-- Keep and return what all of these have pledged. -/
def all {ι : Type} (P : ι → Pledge) : Pledge where
  keeps i key v := ∀ x, (P x).keeps i key v
  returns v := ∀ x, (P x).returns v

/-- The commands that may be given. -/
def Permits (P : Pledge) : Command → Prop
  | .keep i key v => P.keeps i key v
  | _ => True

end Pledge

/-! ## Obedience -/

namespace Program

/-- A program keeps and returns what it pledged, and so do the runs that it starts for others. -/
def Obeys (F : Facts) : Program → Pledge → Prop
  | .done r, P => ∀ v, r = .ok v → P.returns v
  | .ask c k, P => P.Permits c ∧ ∀ a, F.Allows c a → (k a).Obeys F P
  | .share i key run k, P =>
    run.Obeys F (.only (F.shared i key)) ∧ ∀ r, F.Shares i key r → (k r).Obeys F P

namespace Obeys

variable {F : Facts} {P P' : Pledge} {p : Program}

theorem ok {v : Json} (h : P.returns v) : (done (.ok v)).Obeys F P := by
  intro v' hv
  cases hv
  exact h

theorem error (e : RpcError) : (done (.error e)).Obeys F P := by
  intro v hv
  cases hv

theorem send {q : Request} (h : ∀ v, F.answered q v → P.returns v) :
    (Program.send q).Obeys F P := by
  refine ⟨trivial, ?_⟩
  intro r hr v hv
  exact h v (hr v hv)

/-- A program may be trusted with more than it needs. -/
theorem mono (hp : p.Obeys F P) (hkeeps : ∀ i key v, P.keeps i key v → P'.keeps i key v)
    (hreturns : ∀ v, P.returns v → P'.returns v) : p.Obeys F P' := by
  induction p with
  | done r => exact fun v hv => hreturns v (hp v hv)
  | ask c k ih =>
    obtain ⟨hpermits, hk⟩ := hp
    refine ⟨?_, fun a ha => ih a (hk a ha)⟩
    cases c with
    | keep i key v => exact hkeeps i key v hpermits
    | _ => trivial
  | share i key run k _ ih =>
    obtain ⟨hrun, hk⟩ := hp
    exact ⟨hrun, fun r hr => ih r (hk r hr)⟩

theorem returning {R : Json → Prop} (hp : p.Obeys F P) (h : ∀ v, P.returns v → R v) :
    p.Obeys F (P.returning R) := hp.mono (fun _ _ _ => id) h

/-- A program that keeps nothing keeps what is pledged. -/
theorem of_only {R : Json → Prop} (hp : p.Obeys F (.only R)) (h : ∀ v, R v → P.returns v) :
    p.Obeys F P := hp.mono (fun _ _ _ => False.elim) h

/-- A program that obeys each of some pledges obeys all of them at once. -/
theorem all {ι : Type} [Nonempty ι] {P : ι → Pledge} (h : ∀ x, p.Obeys F (P x)) :
    p.Obeys F (.all P) := by
  induction p with
  | done r => exact fun v hv x => h x v hv
  | ask c k ih =>
    refine ⟨?_, fun a ha => ih a fun x => (h x).2 a ha⟩
    cases c with
    | keep i key v => exact fun x => (h x).1
    | _ => trivial
  | share i key run k _ ih =>
    obtain ⟨x⟩ := ‹Nonempty ι›
    exact ⟨(h x).1, fun r hr => ih r fun x => (h x).2 r hr⟩

/-- What comes after a program may rely on what the program returns. -/
theorem bind {R : Json → Prop} {f : Outcome → Program} (hp : p.Obeys F (P.returning R))
    (hf : ∀ r, (∀ v, r = .ok v → R v) → (f r).Obeys F P) : (p.bind f).Obeys F P := by
  induction p with
  | done r => exact hf r hp
  | ask c k ih =>
    obtain ⟨hpermits, hk⟩ := hp
    exact ⟨hpermits, fun a ha => ih a (hk a ha)⟩
  | share i key run k _ ih =>
    obtain ⟨hrun, hk⟩ := hp
    exact ⟨hrun, fun r hr => ih r (hk r hr)⟩

theorem andThen {R : Json → Prop} {f : Json → Program} (hp : p.Obeys F (P.returning R))
    (hf : ∀ v, R v → (f v).Obeys F P) : (p.andThen f).Obeys F P := by
  refine hp.bind ?_
  intro r hr
  cases r with
  | ok v => exact hf v (hr v rfl)
  | error e => exact .error e

end Obeys

end Program

end EthRpc
