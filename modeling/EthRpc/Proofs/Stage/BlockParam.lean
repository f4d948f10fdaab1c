-- SUMMARY: What normalization does to the parameters of a request, and that it does nothing the second time.
import EthRpc.Proofs.Block.Ref
import EthRpc.Stage.BlockParam

/-!
# Normalized requests

A normalized request differs from the request at most at the block parameter,
where the number of the block stands that the parameter names. Once the block is
settled, normalizing leaves the request as it is, whatever the head.
-/

namespace EthRpc

/-! ## Blocks and their numbers -/

/-- The numbers that a block parameter may stand for, where `latest` is any of the given heads. -/
inductive BlockParam.Names (heads : BlockHead → Prop) : Option Json → Nat → Prop where
  | number {v : Json} {n : Nat} : BlockRef.ofJson? v = some (.number n) → Names heads (some v) n
  | earliest {v : Json} : BlockRef.ofJson? v = some (.tag .earliest) → Names heads (some v) 0
  | latest {v : Json} {h : BlockHead} :
      BlockRef.ofJson? v = some (.tag .latest) → heads h → Names heads (some v) h.number
  | null {h : BlockHead} : heads h → Names heads (some .null) h.number
  | omitted {h : BlockHead} : heads h → Names heads none h.number

/-- Parameters are the same, or have the number of a named block in the place of the block
parameter, put there in place of what stood there or appended. -/
def Pinned (heads : BlockHead → Prop) (spec : MethodSpec) (ps qs : List Json) : Prop :=
  qs = ps ∨ ∃ index n, spec.blockParam = some index ∧ BlockParam.Names heads ps[index]? n ∧
    (index < ps.length ∧ qs = ps.set index (BlockRef.numberParam n) ∨
      index = ps.length ∧ qs = ps ++ [BlockRef.numberParam n])

namespace BlockParam

/-- How a parameter is classified. -/
inductive Classifies : Option Json → BlockParam → Prop where
  | omitted : Classifies none .latest
  | null : Classifies (some .null) .latest
  | latest {v : Json} : BlockRef.ofJson? v = some (.tag .latest) → Classifies (some v) .latest
  | earliest {v : Json} :
      BlockRef.ofJson? v = some (.tag .earliest) → Classifies (some v) .earliest
  | volatile {v : Json} : Classifies (some v) .volatile
  | number {v : Json} {n : Nat} :
      BlockRef.ofJson? v = some (.number n) → Classifies (some v) (.concrete (.number n))
  | hash {v : Json} {h : Hash32} :
      BlockRef.ofJson? v = some (.hash h) → Classifies (some v) (.concrete (.hash h))
  | unknown {v : Json} : Classifies (some v) .unknown

theorem classifies {spec : MethodSpec} {index : Nat} (hindex : spec.blockParam = some index)
    (q : Request) : Classifies (q.param? index) (classify spec q) := by
  unfold classify
  simp only [hindex]
  split
  next hv =>
    rw [hv]
    exact .omitted
  next hv =>
    rw [hv]
    exact .null
  next v _ hv =>
    rw [hv]
    cases hr : BlockRef.ofJson? v with
    | none => exact .unknown
    | some r =>
      cases r with
      | tag t =>
        cases t with
        | latest => exact .latest hr
        | earliest => exact .earliest hr
        | _ => exact .volatile
      | number n => exact .number hr
      | hash h => exact .hash hr

theorem classify_of_param {spec : MethodSpec} {index : Nat} (hindex : spec.blockParam = some index)
    {q : Request} {v : Json} {r : BlockRef} (hv : q.param? index = some v)
    (hr : BlockRef.ofJson? v = some r) : classify spec q = ofRef r := by
  unfold classify
  simp only [hindex, hv]
  split
  next hnone => cases hnone
  next hnull =>
    cases hnull
    simp [BlockRef.ofJson?] at hr
  next hsome =>
    cases hsome
    rw [hr]

end BlockParam

/-! ## Placing a number -/

namespace Request

/-- A parameter is replaced, or appended right behind the last one. -/
theorem withParam?_eq_some {q q' : Request} {index : Nat} {v : Json}
    (h : q.withParam? index v = some q') :
    q'.method = q.method ∧ q'.param? index = some v ∧
      (index < q.params.length ∧ q'.params = q.params.set index v ∨
        index = q.params.length ∧ q'.params = q.params ++ [v]) := by
  unfold withParam? at h
  split at h
  case isTrue hlt =>
    cases h
    exact ⟨rfl, by simp [param?, hlt], .inl ⟨hlt, rfl⟩⟩
  case isFalse =>
    split at h
    case isTrue heq =>
      cases h
      exact ⟨rfl, by simp [param?, heq], .inr ⟨heq, rfl⟩⟩
    case isFalse => cases h

end Request

namespace Normalized

/-- A canonical text stands only in a parameter that names the number. -/
theorem text_param_iff {q : Request} {index n : Nat} :
    (q.param? index).bind Json.string? = some (Quantity.text n) ↔
      q.param? index = some (BlockRef.numberParam n) := by
  cases hv : q.param? index with
  | none => simp
  | some v => cases v <;> simp [Json.string?, BlockRef.numberParam]

/-- Placing a number leaves a request alone if the number is there or cannot be put there. -/
theorem place_cases (q : Request) (index n : Nat) (block : BlockParam) :
    (q.param? index = some (BlockRef.numberParam n) ∧ place q index n block = ⟨q, block⟩) ∨
      (∃ q', q.withParam? index (BlockRef.numberParam n) = some q' ∧
        place q index n block = ⟨q', .concrete (.number n)⟩) ∨
      place q index n block = ⟨q, .unknown⟩ := by
  unfold place
  split
  case isTrue h => exact .inl ⟨text_param_iff.1 h, rfl⟩
  case isFalse =>
    split
    next q' hq' => exact .inr (.inl ⟨q', hq', rfl⟩)
    next => exact .inr (.inr rfl)

theorem place_of_there {q : Request} {index n : Nat} {block : BlockParam}
    (h : q.param? index = some (BlockRef.numberParam n)) :
    place q index n block = ⟨q, block⟩ := by
  simp only [place, text_param_iff.2 h, if_true]

/-- A number that is not there yet is put where it can be. -/
theorem place_of_withParam? {q q' : Request} {index n : Nat} {block : BlockParam}
    (h : q.param? index ≠ some (BlockRef.numberParam n))
    (hq' : q.withParam? index (BlockRef.numberParam n) = some q') :
    place q index n block = ⟨q', .concrete (.number n)⟩ := by
  simp only [place, text_param_iff, h, if_false, hq']

/-! ## Settled parameters -/

/-- Any request with these parameters has the given block and is left as it is. -/
def Settled (spec : MethodSpec) (ps : List Json) (block : BlockParam) : Prop :=
  ∀ q : Request, q.params = ps →
    BlockParam.classify spec q = block ∧ plan spec q = .settled ⟨q, block⟩

section Settled

variable {spec : MethodSpec} {ps : List Json}

theorem settled_absent (h : spec.blockParam = none) : Settled spec ps .absent := by
  intro q _
  simp [BlockParam.classify, plan, h]

variable {index : Nat} (hindex : spec.blockParam = some index)

include hindex

theorem settled_hash {v : Json} {h : Hash32} (hv : ps[index]? = some v)
    (hr : BlockRef.ofJson? v = some (.hash h)) : Settled spec ps (.concrete (.hash h)) := by
  rintro q rfl
  have hclassify := BlockParam.classify_of_param hindex (q := q) hv hr
  refine ⟨hclassify, ?_⟩
  simp only [plan, hindex, hclassify, BlockParam.ofRef]

theorem settled_object {v : Json} {n : Nat} (hv : ps[index]? = some v) (hobject : v.isObject)
    (hr : BlockRef.ofJson? v = some (.number n)) : Settled spec ps (.concrete (.number n)) := by
  rintro q rfl
  have hclassify := BlockParam.classify_of_param hindex (q := q) hv hr
  have hparam : q.param? index = some v := hv
  refine ⟨hclassify, ?_⟩
  simp only [plan, hindex, hclassify, BlockParam.ofRef, hparam, Option.any_some, hobject, if_true]

theorem settled_number {n : Nat} (hn : n < 1 <<< 64)
    (hv : ps[index]? = some (BlockRef.numberParam n)) :
    Settled spec ps (.concrete (.number n)) := by
  rintro q rfl
  have hr := BlockRef.ofJson?_numberParam hn
  have hclassify := BlockParam.classify_of_param hindex (q := q) hv hr
  have hparam : q.param? index = some (BlockRef.numberParam n) := hv
  refine ⟨hclassify, ?_⟩
  simp only [plan, hindex, hclassify, BlockParam.ofRef, place_of_there hparam, ite_self]

end Settled

/-! ## Normalizing -/

/-- A request may be normalized to this when the answers that it gets are heads of this kind. -/
inductive Normalizes (heads : BlockHead → Prop) (spec : MethodSpec) (q : Request) :
    Normalized → Prop where
  | settled {n : Normalized} : plan spec q = .settled n → Normalizes heads spec q n
  | known {resume : Except RpcError BlockHead → Normalized} {h : BlockHead} :
      plan spec q = .awaitsHead resume → heads h → Normalizes heads spec q (resume (.ok h))
  | unknown {resume : Except RpcError BlockHead → Normalized} {e : RpcError} :
      plan spec q = .awaitsHead resume → Normalizes heads spec q (resume (.error e))

/-- What is known of a normalized request. -/
structure Normal (heads : BlockHead → Prop) (spec : MethodSpec) (q : Request) (n : Normalized) :
    Prop where
  method : n.request.method = q.method
  pinned : Pinned heads spec q.params n.request.params
  /-- A block that is named for ever is settled. -/
  settled : n.block = .absent ∨ n.block.isConcrete → Settled spec n.request.params n.block
  /-- A request that is not settled is as it was. -/
  kept : ¬(n.block = .absent ∨ n.block.isConcrete) → n.request = q

section Normal

variable {heads : BlockHead → Prop} {spec : MethodSpec} {q : Request}

/-- A request that stays as it is. -/
theorem Normal.refl {block : BlockParam}
    (h : block = .absent ∨ block.isConcrete → Settled spec q.params block) :
    Normal heads spec q ⟨q, block⟩ where
  method := rfl
  pinned := .inl rfl
  settled := h
  kept _ := rfl

theorem Normal.refl_of_not_concrete {block : BlockParam}
    (h : ¬(block = .absent ∨ block.isConcrete)) : Normal heads spec q ⟨q, block⟩ :=
  .refl fun hblock => absurd hblock h

variable {index : Nat} (hindex : spec.blockParam = some index)

include hindex

theorem normal_place {n : Nat} (hn : n < 1 <<< 64)
    (hname : BlockParam.Names heads (q.param? index) n) :
    Normal heads spec q (place q index n (BlockParam.classify spec q)) := by
  rcases place_cases q index n (BlockParam.classify spec q) with
    ⟨hthere, hplace⟩ | ⟨q', hq', hplace⟩ | hplace
  · rw [hplace]
    refine .refl fun _ => ?_
    have hr := BlockRef.ofJson?_numberParam hn
    rw [BlockParam.classify_of_param hindex hthere hr]
    exact settled_number hindex hn hthere
  · rw [hplace]
    obtain ⟨hmethod, hparam, hparams⟩ := Request.withParam?_eq_some hq'
    exact {
      method := hmethod
      pinned := .inr ⟨index, n, hindex, hname, hparams⟩
      settled := fun _ => settled_number hindex hn hparam
      kept := fun hnot => absurd (.inr rfl) hnot }
  · rw [hplace]
    exact .refl_of_not_concrete (by simp [BlockParam.isConcrete])

/-- A parameter that asks for the latest block, with the head or without it. -/
theorem normal_of_latest {n : Normalized} (hheads : ∀ h, heads h → h.number < 1 <<< 64)
    (hname : ∀ h, heads h → BlockParam.Names heads (q.param? index) h.number)
    (hlatest : BlockParam.classify spec q = .latest) (h : Normalizes heads spec q n) :
    Normal heads spec q n := by
  obtain ⟨resume, hplan, hknown, hunknown⟩ : ∃ resume, plan spec q = .awaitsHead resume ∧
      (∀ h, resume (.ok h) = place q index h.number .latest) ∧
      ∀ e, resume (.error e) = ⟨q, .latest⟩ := by
    simp only [plan, hindex, hlatest]
    exact ⟨_, rfl, fun _ => rfl, fun _ => rfl⟩
  cases h with
  | settled h =>
    rw [hplan] at h
    cases h
  | @known resume head h hhead =>
    rw [hplan] at h
    cases h
    have hplace := normal_place hindex (hheads head hhead) (hname head hhead)
    rwa [hlatest, ← hknown] at hplace
  | unknown h =>
    rw [hplan] at h
    cases h
    rw [hunknown]
    exact .refl_of_not_concrete (by simp [BlockParam.isConcrete])

omit hindex in
theorem eq_of_normalizes {n n' : Normalized} (hplan : plan spec q = .settled n')
    (h : Normalizes heads spec q n) : n = n' := by
  cases h with
  | settled h =>
    rw [hplan] at h
    cases h
    rfl
  | known h _ | unknown h =>
    rw [hplan] at h
    cases h

theorem normal_of_classified {n : Normalized} (hheads : ∀ h, heads h → h.number < 1 <<< 64)
    (h : Normalizes heads spec q n) : Normal heads spec q n := by
  have hclass := BlockParam.classifies hindex q
  generalize hparam : q.param? index = param at hclass
  generalize hblock : BlockParam.classify spec q = block at hclass
  cases hclass with
  | omitted =>
    refine normal_of_latest hindex hheads (fun head hhead => ?_) hblock h
    rw [hparam]
    exact .omitted hhead
  | null =>
    refine normal_of_latest hindex hheads (fun head hhead => ?_) hblock h
    rw [hparam]
    exact .null hhead
  | latest hr =>
    refine normal_of_latest hindex hheads (fun head hhead => ?_) hblock h
    rw [hparam]
    exact .latest hr hhead
  | earliest hr =>
    have hplan : plan spec q = .settled (place q index 0 .earliest) := by
      simp only [plan, hindex, hblock]
    rw [eq_of_normalizes hplan h, ← hblock]
    exact normal_place hindex (by decide) (hparam ▸ .earliest hr)
  | @number v k hr =>
    by_cases hobject : v.isObject
    · have hplan : plan spec q = .settled ⟨q, .concrete (.number k)⟩ := by
        simp [plan, hindex, hblock, hparam, hobject]
      rw [eq_of_normalizes hplan h]
      exact .refl fun _ => settled_object hindex hparam hobject hr
    · have hplan : plan spec q = .settled (place q index k (.concrete (.number k))) := by
        simp [plan, hindex, hblock, hparam, hobject]
      rw [eq_of_normalizes hplan h, ← hblock]
      exact normal_place hindex (BlockRef.lt_of_ofJson? v hr) (hparam ▸ .number hr)
  | @hash v k hr =>
    have hplan : plan spec q = .settled ⟨q, .concrete (.hash k)⟩ := by
      simp only [plan, hindex, hblock]
    rw [eq_of_normalizes hplan h]
    exact .refl fun _ => settled_hash hindex hparam hr
  | volatile =>
    have hplan : plan spec q = .settled ⟨q, .volatile⟩ := by
      simp only [plan, hindex, hblock]
    rw [eq_of_normalizes hplan h]
    exact .refl_of_not_concrete (by simp [BlockParam.isConcrete])
  | unknown =>
    have hplan : plan spec q = .settled ⟨q, .unknown⟩ := by
      simp only [plan, hindex, hblock]
    rw [eq_of_normalizes hplan h]
    exact .refl_of_not_concrete (by simp [BlockParam.isConcrete])

end Normal

/-- Whatever the heads that are reported, a normalized request is what it should be. -/
theorem normal_of_normalizes {heads : BlockHead → Prop} {spec : MethodSpec} {q : Request}
    {n : Normalized} (hheads : ∀ h, heads h → h.number < 1 <<< 64)
    (h : Normalizes heads spec q n) : Normal heads spec q n := by
  cases hindex : spec.blockParam with
  | none =>
    have hplan : plan spec q = .settled ⟨q, .absent⟩ := by simp only [plan, hindex]
    rw [eq_of_normalizes hplan h]
    exact .refl fun _ => settled_absent hindex
  | some index => exact normal_of_classified hindex hheads h

end Normalized

end EthRpc
