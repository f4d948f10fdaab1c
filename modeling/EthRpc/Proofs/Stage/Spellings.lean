-- SUMMARY: All spellings of a block number come to one normalized request, and so to one key.
import EthRpc.Proofs.Block.Spelling
import EthRpc.Proofs.Stage.Normalization
import EthRpc.Stage.BlockCache
import EthRpc.Stage.Inflight

/-!
# Spellings of a block

A block number may be given as a text in many forms, as a whole number, by a tag
or by leaving it out. Normalization puts its canonical text in the place of each
of these, so requests that differ in nothing else become equal. Only an object
around a number is left as it is.
-/

namespace EthRpc

/-! ## Spellings and references -/

/-- The spellings of the number of a block in a parameter that may be missing, where `latest` is any
of the given heads. -/
inductive BlockParam.Spelled (heads : BlockHead → Prop) : Option Json → Nat → Prop where
  | text {s : String} {n : Nat} : BlockRef.looksLikeHash s = false → Quantity.Spells s n →
      n < 1 <<< 64 → Spelled heads (some (.string s)) n
  | whole {n : Nat} : n < 1 <<< 64 → Spelled heads (some (.ofNat n)) n
  | earliest {v : Json} : BlockRef.NamesTag .earliest v → Spelled heads (some v) 0
  | latest {v : Json} {h : BlockHead} :
      BlockRef.NamesTag .latest v → heads h → Spelled heads (some v) h.number
  | null {h : BlockHead} : heads h → Spelled heads (some .null) h.number
  | omitted {h : BlockHead} : heads h → Spelled heads none h.number

/-- An object whose block number is itself a number. -/
def BlockRef.NumberObject (v : Json) (n : Nat) : Prop :=
  ∃ members w, v = .object members ∧ Member members w ∧ ofJson? w = some (.number n)

namespace BlockParam

variable {heads : BlockHead → Prop} {p : Option Json} {n : Nat}

theorem Spelled.names (h : Spelled heads p n) : Names heads p n := by
  cases h with
  | text hhash hs hlt => exact .number (BlockRef.ofJson?_string_iff.2 ⟨hhash, hs, hlt⟩)
  | whole hlt => exact .number (BlockRef.ofJson?_ofNat_iff.2 ⟨rfl, hlt⟩)
  | earliest hv => exact .earliest (BlockRef.ofJson?_eq_tag_iff.2 hv)
  | latest hv hh => exact .latest (BlockRef.ofJson?_eq_tag_iff.2 hv) hh
  | null hh => exact .null hh
  | omitted hh => exact .omitted hh

/-- A value that refers to a number spells it or is an object around one. -/
theorem spelled_or_object {v : Json} (h : BlockRef.ofJson? v = some (.number n)) :
    Spelled heads (some v) n ∨ BlockRef.NumberObject v n := by
  cases v with
  | string s =>
    obtain ⟨hhash, hs, hlt⟩ := BlockRef.ofJson?_string_iff.1 h
    exact .inl (.text hhash hs hlt)
  | number k =>
    cases k with
    | whole m =>
      obtain ⟨rfl, hlt⟩ := BlockRef.ofJson?_ofNat_iff.1 h
      exact .inl (.whole hlt)
    | negative m | double x => simp [BlockRef.ofJson?] at h
  | object members =>
    obtain ⟨w, hmember, hw⟩ := (BlockRef.ofJson?_object_iff (by simp)).1 h
    exact .inr ⟨members, w, rfl, hmember, hw⟩
  | null | bool b | array items => simp [BlockRef.ofJson?] at h

/-- Of all that names the number of a block, only an object around a number is no spelling. -/
theorem names_iff : Names heads p n ↔
    Spelled heads p n ∨ ∃ v, p = some v ∧ BlockRef.NumberObject v n := by
  constructor
  · intro h
    cases h with
    | number hv => exact (spelled_or_object hv).imp_right fun hobject => ⟨_, rfl, hobject⟩
    | earliest hv => exact .inl (.earliest (BlockRef.ofJson?_eq_tag_iff.1 hv))
    | latest hv hh => exact .inl (.latest (BlockRef.ofJson?_eq_tag_iff.1 hv) hh)
    | null hh => exact .inl (.null hh)
    | omitted hh => exact .inl (.omitted hh)
  · rintro (hspelled | ⟨v, rfl, members, w, rfl, hmember, hw⟩)
    · exact hspelled.names
    · exact .number ((BlockRef.ofJson?_object_iff (by simp)).2 ⟨w, hmember, hw⟩)

end BlockParam

/-! ## One request for all spellings -/

namespace Normalized

section Spelled

variable {spec : MethodSpec} {q : Request} {index n : Nat} {a : Except RpcError BlockHead}
  (hindex : spec.blockParam = some index)

include hindex

theorem resolved_eq_place (h : BlockParam.Spelled (fun h => a = .ok h) (q.param? index) n) :
    resolved spec q a = place q index n (BlockParam.classify spec q) := by
  have hnumber {v : Json} (hv : q.param? index = some v) (hobject : v.isObject = false)
      (hr : BlockRef.ofJson? v = some (.number n)) :
      resolved spec q a = place q index n (BlockParam.classify spec q) := by
    simp [resolved, plan, hindex, BlockParam.classify_of_param hindex hv hr, BlockParam.ofRef, hv,
      hobject]
  have hlatest {head : BlockHead} (hblock : BlockParam.classify spec q = .latest)
      (ha : a = .ok head) :
      resolved spec q a = place q index head.number (BlockParam.classify spec q) := by
    simp only [resolved, plan, hindex, hblock, ha]
  generalize hparam : q.param? index = p at h
  cases h with
  | text hhash hs hlt =>
    exact hnumber hparam rfl (BlockRef.ofJson?_string_iff.2 ⟨hhash, hs, hlt⟩)
  | whole hlt => exact hnumber hparam rfl (BlockRef.ofJson?_ofNat_iff.2 ⟨rfl, hlt⟩)
  | earliest hv =>
    have hr := BlockRef.ofJson?_eq_tag_iff.2 hv
    simp only [resolved, plan, hindex, BlockParam.classify_of_param hindex hparam hr,
      BlockParam.ofRef]
  | latest hv ha =>
    have hr := BlockRef.ofJson?_eq_tag_iff.2 hv
    exact hlatest (BlockParam.classify_of_param hindex hparam hr) ha
  | null ha | omitted ha => exact hlatest (by simp only [BlockParam.classify, hindex, hparam]) ha

/-- A number that is placed names the block. -/
theorem exists_place (hn : n < 1 <<< 64) (hend : index ≤ q.params.length) :
    ∃ r, place q index n (BlockParam.classify spec q) = ⟨r, .concrete (.number n)⟩ ∧
      r.param? index = some (BlockRef.numberParam n) := by
  by_cases hthere : q.param? index = some (BlockRef.numberParam n)
  · have hr := BlockRef.ofJson?_numberParam hn
    rw [place_of_there hthere, BlockParam.classify_of_param hindex hthere hr]
    exact ⟨q, rfl, hthere⟩
  · obtain ⟨r, hr⟩ : ∃ r, q.withParam? index (BlockRef.numberParam n) = some r := by
      unfold Request.withParam?
      rcases Nat.lt_or_eq_of_le hend with hlt | heq
      · exact ⟨_, if_pos hlt⟩
      · rw [if_neg (Nat.not_lt.2 (Nat.le_of_eq heq.symm)), if_pos heq]
        exact ⟨_, rfl⟩
    exact ⟨r, place_of_withParam? hthere hr, (Request.withParam?_eq_some hr).2.1⟩

/-- However a block number is spelled, the normalized request has it in its canonical text and is the
request otherwise. -/
theorem exists_resolved (hn : n < 1 <<< 64) (hend : index ≤ q.params.length)
    (h : BlockParam.Spelled (fun h => a = .ok h) (q.param? index) n) :
    ∃ r, resolved spec q a = ⟨r, .concrete (.number n)⟩ ∧ r.method = q.method ∧
      r.param? index = some (BlockRef.numberParam n) ∧
      ∀ i, i ≠ index → r.param? i = q.param? i := by
  obtain ⟨r, hplace, hparam⟩ := exists_place hindex hn hend
  have hnormal := normal_place hindex hn h.names
  have hid := id_place q index n (BlockParam.classify spec q)
  rw [hplace] at hnormal hid
  have hframed := framed_of_pinned hid hnormal.method hnormal.pinned
  refine ⟨r, (resolved_eq_place hindex h).trans hplace, hnormal.method, hparam, fun i hi => ?_⟩
  rcases hframed.params with hsame | ⟨j, m, hj, -, -, hother, -⟩
  · exact congrArg (·[i]?) hsame
  · rw [hindex] at hj
    cases hj
    exact hother i hi

end Spelled

end Normalized

/-! ## One key for all spellings -/

/-- What a program comes to when it has the answer to the question for the head, if this is the first
that it asks. -/
def Program.informed (a : Except RpcError BlockHead) : Program → Program
  | .ask (.query .latest) k => k a
  | p => p

/-- Given the answer to the question for the head, a request becomes another one, which is looked up
in a cache and shared in flight under a key. -/
structure Request.Keyed (methods : MethodTable) (q : Request) (a : Except RpcError BlockHead)
    (r : Request) (block : BlockRef) (key : String) : Prop where
  resolved : Normalized.resolved (methods.spec q.method) q a = ⟨r, .concrete block⟩
  looked : ∀ cache next, ((Stage.blockCache methods cache).handle q next).informed a =
    .cached cache (methods.spec q.method) key r next
  shared : ∀ table next,
    (Stage.inflight methods table).handle r next = .share table key (next r) .done

/-- With its block settled, a request is known by its own fingerprint. -/
theorem Request.keyed_of_resolved {methods : MethodTable} {q r : Request}
    {a : Except RpcError BlockHead} {block : BlockRef}
    (hcache : (methods.spec q.method).cache = .block) (hmethod : r.method = q.method)
    (h : Normalized.resolved (methods.spec q.method) q a = ⟨r, .concrete block⟩) :
    q.Keyed methods a r block r.fingerprint where
  resolved := h
  looked cache next := by
    simp only [Stage.blockCache, hcache]
    rw [Normalized.normalizing_eq (a := a)]
    split
    · simp only [Program.informed, h]
    · rw [h]
      rfl
  shared table next := by simp only [Stage.inflight, hmethod, hcache]

namespace BlockRef

/-- Parameters that are the same elsewhere reach as far as a position, or both do not. -/
theorem le_length_of_alike {ps qs : List Json} {index : Nat}
    (h : ∀ i, i ≠ index → qs[i]? = ps[i]?) (hend : index ≤ ps.length) : index ≤ qs.length := by
  by_contra hlt
  have hmissing : qs[qs.length]? = ps[qs.length]? := h _ (by omega)
  rw [List.getElem?_eq_none (Nat.le_refl _)] at hmissing
  have hle := List.getElem?_eq_none_iff.1 hmissing.symm
  omega

/-- What names the number of a block spells it, or is an object around a number, which is left as it
is. Two requests that spell one number and differ in nothing else are normalized to equal
parameters, and looked up and shared in flight under one key. -/
theorem spellings_share_keys :
    (∀ {heads : BlockHead → Prop} {p : Option Json} {n : Nat}, BlockParam.Names heads p n ↔
      BlockParam.Spelled heads p n ∨ ∃ v, p = some v ∧ NumberObject v n) ∧
    (∀ {spec : MethodSpec} {q : Request} {index n : Nat} {v : Json}, spec.blockParam = some index →
      q.param? index = some v → NumberObject v n →
      ∀ a, Normalized.resolved spec q a = ⟨q, .concrete (.number n)⟩) ∧
    ∀ {methods : MethodTable} {q q' : Request} {index n : Nat} {a a' : Except RpcError BlockHead},
      (methods.spec q.method).cache = .block → (methods.spec q.method).blockParam = some index →
      q'.method = q.method → (∀ i, i ≠ index → q'.param? i = q.param? i) →
      index ≤ q.params.length → n < 1 <<< 64 →
      BlockParam.Spelled (fun h => a = .ok h) (q.param? index) n →
      BlockParam.Spelled (fun h => a' = .ok h) (q'.param? index) n →
      ∃ r r' key, q.Keyed methods a r (.number n) key ∧ q'.Keyed methods a' r' (.number n) key ∧
        r.params = r'.params := by
  refine ⟨BlockParam.names_iff, ?object, ?spellings⟩
  case object =>
    rintro spec q index n v hindex hv ⟨members, w, rfl, hmember, hw⟩ a
    have hr : ofJson? (.object members) = some (.number n) :=
      (ofJson?_object_iff (by simp)).2 ⟨w, hmember, hw⟩
    have hblock := BlockParam.classify_of_param hindex hv hr
    rw [Normalized.resolved_of_settled
      (Normalized.plan_of_leftAlone hindex hv (.object rfl hr)), hblock]
    rfl
  case spellings =>
    intro methods q q' index n a a' hcache hindex hmethod hothers hend hn hspelled hspelled'
    obtain ⟨r, hresolved, hrmethod, hrparam, hrothers⟩ :=
      Normalized.exists_resolved hindex hn hend hspelled
    obtain ⟨r', hresolved', hrmethod', hrparam', hrothers'⟩ :=
      Normalized.exists_resolved hindex hn (le_length_of_alike hothers hend) hspelled'
    have hparams : r.params = r'.params := by
      apply List.ext_getElem?
      intro i
      by_cases hi : i = index
      · rw [hi]
        exact hrparam.trans hrparam'.symm
      · exact (hrothers i hi).trans ((hothers i hi).symm.trans (hrothers' i hi).symm)
    have hkey : r'.fingerprint = r.fingerprint := by
      rw [Request.fingerprint, Request.fingerprint, hparams, hrmethod, hrmethod', hmethod]
    refine ⟨r, r', r.fingerprint, Request.keyed_of_resolved hcache hrmethod hresolved, ?_, hparams⟩
    rw [← hkey]
    rw [← hmethod] at hcache hresolved'
    exact Request.keyed_of_resolved hcache hrmethod' hresolved'

/-! ### A balance at block 100 -/

/-- A table with one method, whose second parameter is a block. -/
def balances : MethodTable := [("eth_getBalance", { cache := .block, blockParam := some 1 })]

/-- The block is written with a capital prefix, a plus sign and zeros. -/
def balanceSpelled : Request := ⟨.number 7, "eth_getBalance", [.string "0xaa", .string "0X+0064"]⟩

/-- The block is left out. -/
def balanceOmitted : Request := ⟨.string "b", "eth_getBalance", [.string "0xaa"]⟩

/-- The number is inside an object. -/
def balanceInObject : Request :=
  ⟨.number 8, "eth_getBalance", [.string "0xaa", .object [("blockNumber", .string "0x64")]]⟩

/-- At head 100, who leaves the block out has the same key as who spells its number, but who puts the
number into an object keeps it there. -/
theorem spellings_share_keys_of_balance :
    (∃ r r' key, balanceSpelled.Keyed balances (.error .timeout) r (.number 100) key ∧
      balanceOmitted.Keyed balances (.ok ⟨100, .ofNat 7⟩) r' (.number 100) key ∧
      r.params = r'.params) ∧
    Normalized.resolved (balances.spec "eth_getBalance") balanceInObject (.error .timeout) =
      ⟨balanceInObject, .concrete (.number 100)⟩ := by
  refine ⟨spellings_share_keys.2.2 rfl rfl rfl (fun i hi => ?_) (by decide) (by decide) ?_ ?_,
    spellings_share_keys.2.1 rfl rfl ?_ _⟩
  · match i with
    | 0 => rfl
    | 1 => exact absurd rfl hi
    | i + 2 => rfl
  · exact .text (by decide) ⟨['+'], 2, .inr rfl, by decide⟩ (by decide)
  · exact @BlockParam.Spelled.omitted _ ⟨100, .ofNat 7⟩ rfl
  · exact ⟨_, .string "0x64", rfl, ⟨rfl, rfl⟩, @ofJson?_numberParam 100 (by decide)⟩

end BlockRef

end EthRpc
