-- SUMMARY: Normalization changes at most the block parameter, and nothing the second time.
import EthRpc.Proofs.Stage.BlockParam

/-!
# The frame of normalization

What a request becomes is a function of the answer to the question for the head,
which is asked only for `latest`. The request keeps its id, its method and all
parameters but the one of the block. Once the block is concrete the request
names it, so that normalizing again finds nothing to ask and nothing to do.
-/

namespace EthRpc

/-- Block parameters that normalization leaves alone. -/
inductive BlockRef.LeftAlone (v : Json) : Prop where
  | pending : ofJson? v = some (.tag .pending) → LeftAlone v
  | safe : ofJson? v = some (.tag .safe) → LeftAlone v
  | finalized : ofJson? v = some (.tag .finalized) → LeftAlone v
  | unknown : v.isNull = false → ofJson? v = none → LeftAlone v
  /-- A bare hash, or an object that names one. -/
  | hash {h : Hash32} : ofJson? v = some (.hash h) → LeftAlone v
  | object {n : Nat} : v.isObject → ofJson? v = some (.number n) → LeftAlone v

/-- The second request is the first one up to the block parameter, which holds the text of the
number that it names and may be one more parameter than there was. -/
structure Request.Framed (heads : BlockHead → Prop) (spec : MethodSpec) (q q' : Request) :
    Prop where
  id : q'.id = q.id
  method : q'.method = q.method
  params : q'.params = q.params ∨ ∃ index n, spec.blockParam = some index ∧
    BlockParam.Names heads (q.param? index) n ∧
    q'.param? index = some (BlockRef.numberParam n) ∧
    (∀ i, i ≠ index → q'.param? i = q.param? i) ∧
    (q'.params.length = q.params.length ∨
      index = q.params.length ∧ q'.params.length = q.params.length + 1)

namespace Normalized

/-- What a request becomes if this is the answer to the question for the head, should it be
asked. -/
def resolved (spec : MethodSpec) (q : Request) (a : Except RpcError BlockHead) : Normalized :=
  match plan spec q with
  | .settled n => n
  | .awaitsHead resume => resume a

section Resolved

variable {spec : MethodSpec} {q : Request} {a : Except RpcError BlockHead}

theorem resolved_of_settled {n : Normalized} (h : plan spec q = .settled n) :
    resolved spec q a = n := by
  simp only [resolved, h]

theorem normalizing_of_settled {n : Normalized} (h : plan spec q = .settled n)
    (k : Normalized → Program) : Program.normalizing spec q k = k n := by
  simp only [Program.normalizing, h]

/-- The head is asked for exactly if the block is the latest. -/
theorem plan_cases (spec : MethodSpec) (q : Request) :
    (BlockParam.classify spec q = .latest ∧ ∃ resume, plan spec q = .awaitsHead resume) ∨
      (BlockParam.classify spec q ≠ .latest ∧ ∃ n, plan spec q = .settled n) := by
  unfold plan
  cases hindex : spec.blockParam with
  | none => exact .inr ⟨by simp [BlockParam.classify, hindex], _, rfl⟩
  | some index =>
    cases hblock : BlockParam.classify spec q with
    | latest => exact .inl ⟨rfl, _, rfl⟩
    | concrete block =>
      refine .inr ⟨by simp, ?_⟩
      cases block with
      | number n =>
        dsimp only
        split
        · exact ⟨_, rfl⟩
        · exact ⟨_, rfl⟩
      | _ => exact ⟨_, rfl⟩
    | _ => exact .inr ⟨by simp, _, rfl⟩

theorem normalizing_eq (k : Normalized → Program) :
    Program.normalizing spec q k =
      if BlockParam.classify spec q = .latest then
        .ask (.query .latest) fun b => k (resolved spec q b)
      else k (resolved spec q a) := by
  rcases plan_cases spec q with ⟨hlatest, resume, hplan⟩ | ⟨hother, n, hplan⟩
  · simp only [Program.normalizing, resolved, hplan, hlatest, if_true]
  · rw [if_neg hother, normalizing_of_settled hplan, resolved_of_settled hplan]

theorem normalizes_resolved (spec : MethodSpec) (q : Request) (a : Except RpcError BlockHead) :
    Normalizes (fun h => a = .ok h) spec q (resolved spec q a) := by
  rcases plan_cases spec q with ⟨-, resume, hplan⟩ | ⟨-, n, hplan⟩
  · have hresolved : resolved spec q a = resume a := by simp only [resolved, hplan]
    rw [hresolved]
    cases a with
    | ok h => exact .known hplan rfl
    | error e => exact .unknown hplan
  · rw [resolved_of_settled hplan]
    exact .settled hplan

end Resolved

/-! ## What stays -/

section Stays

variable {heads : BlockHead → Prop} {spec : MethodSpec} {q : Request} {n : Normalized}

theorem id_withParam? {q q' : Request} {index : Nat} {v : Json}
    (h : q.withParam? index v = some q') : q'.id = q.id := by
  unfold Request.withParam? at h
  split at h
  case isTrue =>
    cases h
    rfl
  case isFalse =>
    split at h
    case isTrue =>
      cases h
      rfl
    case isFalse => cases h

theorem id_place (q : Request) (index n : Nat) (block : BlockParam) :
    (place q index n block).request.id = q.id := by
  rcases place_cases q index n block with ⟨-, hplace⟩ | ⟨q', hq', hplace⟩ | hplace
  · rw [hplace]
  · rw [hplace]
    exact id_withParam? hq'
  · rw [hplace]

/-- A request is left alone, or a number is placed at its block parameter. -/
theorem resolved_cases (spec : MethodSpec) (q : Request) (a : Except RpcError BlockHead) :
    resolved spec q a = ⟨q, BlockParam.classify spec q⟩ ∨
      ∃ index n, resolved spec q a = place q index n (BlockParam.classify spec q) := by
  cases hindex : spec.blockParam with
  | none =>
    refine .inl ?_
    simp only [resolved, plan, BlockParam.classify, hindex]
  | some index =>
    cases hblock : BlockParam.classify spec q with
    | concrete block =>
      cases block with
      | number n =>
        by_cases hobject : (q.param? index).any Json.isObject
        · exact .inl (by simp only [resolved, plan, hindex, hblock, hobject, if_true])
        · exact .inr ⟨index, n, by simp [resolved, plan, hindex, hblock, hobject]⟩
      | _ => exact .inl (by simp only [resolved, plan, hindex, hblock])
    | earliest => exact .inr ⟨index, 0, by simp only [resolved, plan, hindex, hblock]⟩
    | latest =>
      cases a with
      | ok h => exact .inr ⟨index, h.number, by simp only [resolved, plan, hindex, hblock]⟩
      | error e => exact .inl (by simp only [resolved, plan, hindex, hblock])
    | _ => exact .inl (by simp only [resolved, plan, hindex, hblock])

theorem id_resolved (spec : MethodSpec) (q : Request) (a : Except RpcError BlockHead) :
    (resolved spec q a).request.id = q.id := by
  rcases resolved_cases spec q a with h | ⟨index, n, h⟩
  · rw [h]
  · rw [h]
    exact id_place ..

/-- Nothing is pinned to a head that nobody knows. -/
theorem resolved_of_error (hlatest : BlockParam.classify spec q = .latest) (e : RpcError) :
    resolved spec q (.error e) = ⟨q, .latest⟩ := by
  cases hindex : spec.blockParam with
  | none => simp [BlockParam.classify, hindex] at hlatest
  | some index => simp only [resolved, plan, hindex, hlatest]

/-- A parameter list in which the block is pinned is the old one elsewhere. -/
theorem framed_of_pinned {q' : Request} (hid : q'.id = q.id) (hmethod : q'.method = q.method)
    (h : Pinned heads spec q.params q'.params) : q.Framed heads spec q' where
  id := hid
  method := hmethod
  params := by
    rcases h with hsame | ⟨index, n, hindex, hname, ⟨hlt, hset⟩ | ⟨hlength, happend⟩⟩
    · exact .inl hsame
    · refine .inr ⟨index, n, hindex, hname, ?_, fun i hi => ?_, .inl ?_⟩
      · rw [Request.param?, hset, List.getElem?_set_self hlt]
      · rw [Request.param?, hset, List.getElem?_set_ne (Ne.symm hi), Request.param?]
      · rw [hset, List.length_set]
    · refine .inr ⟨index, n, hindex, hname, ?_, fun i hi => ?_, .inr ⟨hlength, ?_⟩⟩
      · rw [Request.param?, happend, hlength, List.getElem?_concat_length]
      · rw [Request.param?, happend, Request.param?]
        rcases Nat.lt_or_gt_of_ne hi with hlt | hgt
        · rw [List.getElem?_append_left (by omega)]
        · rw [List.getElem?_eq_none (by simp; omega), List.getElem?_eq_none (by omega)]
      · rw [happend, List.length_append, List.length_singleton]

theorem plan_of_leftAlone {index : Nat} {v : Json} (hindex : spec.blockParam = some index)
    (hv : q.param? index = some v) (h : BlockRef.LeftAlone v) :
    plan spec q = .settled ⟨q, BlockParam.classify spec q⟩ := by
  cases h with
  | pending hr | safe hr | finalized hr | hash hr =>
    simp only [plan, hindex, BlockParam.classify_of_param hindex hv hr, BlockParam.ofRef]
  | object hobject hr =>
    simp only [plan, hindex, BlockParam.classify_of_param hindex hv hr, BlockParam.ofRef, hv,
      Option.any_some, hobject, if_true]
  | unknown hnull hr =>
    have hblock : BlockParam.classify spec q = .unknown := by
      unfold BlockParam.classify
      simp only [hindex, hv]
      split
      next heq => cases heq
      next heq =>
        cases heq
        cases hnull
      next heq =>
        cases heq
        rw [hr]
    simp only [plan, hindex, hblock]

/-- A block parameter that stands behind a missing one cannot be placed. -/
theorem resolved_of_gap {index : Nat} (hindex : spec.blockParam = some index)
    (hgap : q.params.length < index) (a : Except RpcError BlockHead) :
    (resolved spec q a).request = q ∧ (resolved spec q a).block.isConcrete = false := by
  have hparam : q.param? index = none := List.getElem?_eq_none (Nat.le_of_lt hgap)
  have hblock : BlockParam.classify spec q = .latest := by
    simp only [BlockParam.classify, hindex, hparam]
  cases a with
  | error e =>
    rw [resolved_of_error hblock]
    exact ⟨rfl, rfl⟩
  | ok h =>
    have hplace : resolved spec q (.ok h) = ⟨q, .unknown⟩ := by
      simp [resolved, plan, hindex, hblock, place, hparam, Request.withParam?, Nat.lt_asymm hgap,
        Nat.ne_of_gt hgap]
    rw [hplace]
    exact ⟨rfl, rfl⟩

end Stays

/-! ## Normalizing once and again -/

/-- Whatever a request and a report of the head are, the normalized request differs from it only by
a canonical number for its block. It names the block that is reported with it, so that normalizing
it again does nothing and asks for nothing. What names no number and not the latest block, and what
cannot be pinned, stays as it is. -/
theorem normalizing_frame (spec : MethodSpec) (q : Request) (a : Except RpcError BlockHead)
    (ha : ∀ h, a = .ok h → h.number < 1 <<< 64) :
    (∀ k, Program.normalizing spec q k =
      if BlockParam.classify spec q = .latest then
        .ask (.query .latest) fun b => k (resolved spec q b)
      else k (resolved spec q a)) ∧
    q.Framed (fun h => a = .ok h) spec (resolved spec q a).request ∧
    ((resolved spec q a).block.isConcrete →
      BlockParam.classify spec (resolved spec q a).request = (resolved spec q a).block ∧
      ∀ k, Program.normalizing spec (resolved spec q a).request k = k (resolved spec q a)) ∧
    (∀ index v, spec.blockParam = some index → q.param? index = some v → BlockRef.LeftAlone v →
      ∀ k, Program.normalizing spec q k = k ⟨q, BlockParam.classify spec q⟩) ∧
    (BlockParam.classify spec q = .latest → ∀ e, a = .error e → resolved spec q a = ⟨q, .latest⟩) ∧
    (∀ index, spec.blockParam = some index → q.params.length < index →
      (resolved spec q a).request = q ∧ (resolved spec q a).block.isConcrete = false) := by
  have hnormal := normal_of_normalizes ha (normalizes_resolved spec q a)
  refine ⟨fun k => normalizing_eq k, ?_, fun hconcrete => ?_, ?_, ?_, ?_⟩
  case refine_1 => exact framed_of_pinned (id_resolved spec q a) hnormal.method hnormal.pinned
  case refine_2 =>
    obtain ⟨hblock, hplan⟩ := hnormal.settled (.inr hconcrete) _ rfl
    exact ⟨hblock, normalizing_of_settled hplan⟩
  case refine_3 =>
    intro index v hindex hv halone
    exact normalizing_of_settled (plan_of_leftAlone hindex hv halone)
  case refine_4 =>
    rintro hlatest e rfl
    exact resolved_of_error hlatest e
  case refine_5 =>
    intro index hindex hgap
    exact resolved_of_gap hindex hgap a

/-- A balance whose block is left out. -/
def balance : Request := ⟨.number 7, "eth_getBalance", [.string "0xaa"]⟩

/-- The balance at the block that is latest. -/
def balanceAtHead : Request := { balance with params := [.string "0xaa", .string "0x64"] }

/-- The block that is left out becomes the number of the head, and stays that. -/
theorem normalizing_frame_of_omitted :
    balance.Framed (fun h => (⟨100, .ofNat 100⟩ : BlockHead) = h) { blockParam := some 1 }
        balanceAtHead ∧
      ∀ k, Program.normalizing { blockParam := some 1 } balanceAtHead k =
        k ⟨balanceAtHead, .concrete (.number 100)⟩ := by
  obtain ⟨-, hframed, hagain, -⟩ := normalizing_frame { blockParam := some 1 } balance
    (.ok ⟨100, .ofNat 100⟩) fun h hh => by
      cases hh
      decide
  simp only [Except.ok.injEq] at hframed
  exact ⟨hframed, (hagain rfl).2⟩

end Normalized

end EthRpc
