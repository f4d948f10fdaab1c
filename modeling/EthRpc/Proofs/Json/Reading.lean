-- SUMMARY: A JSON value whose brackets nest within the limit is read back from its compact text.
import EthRpc.Json.Source
import EthRpc.Proofs.Json.Scanning

/-!
# Reading compact texts

The tokens of a value build its tree, whatever brackets are open around it, and
the tree of a value is worth the value again, but for the members of its
objects: a reader puts them in order and lets the last of one name count.
-/

namespace EthRpc

namespace Dict

variable {α : Type}

/-- The keys stand in order, and none stands twice. -/
def Ascends (d : Dict α) : Prop := d.Pairwise (·.1 < ·.1)

theorem insert_of_forall_lt {d : Dict α} {key : String} (h : ∀ p ∈ d, p.1 < key) (value : α) :
    d.insert key value = d ++ [(key, value)] := by
  induction d with
  | nil => rfl
  | cons p d ih =>
    have hlt : p.1 < key := h p List.mem_cons_self
    rw [insert, if_neg (String.lt_asymm hlt), if_neg (String.ne_of_lt hlt).symm,
      ih fun q hq => h q (List.mem_cons_of_mem _ hq)]
    rfl

theorem ofList_of_ascends {d : Dict α} (h : Ascends d) : ofList d = d := by
  have happend : ∀ top bottom : Dict α, Ascends (bottom ++ top) →
      top.foldl (fun d p => d.insert p.1 p.2) bottom = bottom ++ top := by
    intro top
    induction top with
    | nil => simp
    | cons p top ih =>
      intro bottom hasc
      have hlt : ∀ q ∈ bottom, q.1 < p.1 := fun q hq =>
        (List.pairwise_append.1 hasc).2.2 q hq p List.mem_cons_self
      rw [List.foldl_cons, insert_of_forall_lt hlt, ih _ (by simpa using hasc)]
      simp
  exact happend d [] h

end Dict

namespace Json

/-! ## From tokens to trees -/

namespace Source

/-- Where a value may come next. -/
def Expected.TakesValue (e : Expected) : Prop := e = .value ∨ e = .valueOrClose

open Partial

/-- The token that opens or is a value is taken as such. -/
theorem foldlM_cons {e : Expected} (he : e.TakesValue) (fs : List Frame) (t : Token)
    (ht : t ≠ .closeArray) (ts : List Token) :
    (t :: ts).foldlM step ⟨fs, e⟩ = (openValue fs t).bind fun p => ts.foldlM step p := by
  rcases he with rfl | rfl
  · rfl
  · cases t <;> first | rfl | exact absurd rfl ht

/-- A name and a colon announce the value of a member. -/
theorem foldlM_name {e : Expected} (he : e = .name ∨ e = .nameOrClose)
    (done : List (Option String × Source)) (fs : List Frame) (name : String) (ts : List Token) :
    (.string (some name.toList) :: .colon :: ts).foldlM step ⟨.object done :: fs, e⟩ =
      ts.foldlM step ⟨.member done (some name) :: fs, .value⟩ := by
  rcases he with rfl | rfl <;> simp [step]

mutual

/-- The tokens of a value build its tree, which goes into the innermost bracket. -/
theorem foldlM_tokens : (v : Json) → v.Faithful → {e : Expected} → e.TakesValue →
    (fs : List Frame) → (ts : List Token) →
      (v.tokens ++ ts).foldlM step ⟨fs, e⟩ =
        (complete (ofJson v) fs).bind fun p => ts.foldlM step p
  | .null, _, e, he, fs, ts => foldlM_cons he fs .null nofun ts
  | .bool b, _, e, he, fs, ts => foldlM_cons he fs (.bool b) nofun ts
  | .number n, hv, e, he, fs, ts => by
    cases hv with
    | number hn =>
      have hfold := foldlM_cons he fs (.numeral n.numeral) nofun ts
      rw [openValue, (Number.numeral_spec hn).2] at hfold
      exact hfold
  | .string s, _, e, he, fs, ts => by
    have hfold := foldlM_cons he fs (.string (some s.toList)) nofun ts
    rw [openValue, Option.map_some, String.ofList_toList] at hfold
    exact hfold
  | .array [], _, e, he, fs, ts => foldlM_cons he fs .openArray nofun (.closeArray :: ts)
  | .array (v :: items), hv, e, he, fs, ts => by
    cases hv with
    | array hitems =>
      rw [tokens, List.cons_append, List.append_assoc, foldlM_cons he fs .openArray nofun]
      have hfirst := foldlM_tokens v (hitems v List.mem_cons_self) (e := .valueOrClose)
        (.inr rfl) (.array [] :: fs) (itemTokens items ++ ts)
      have hrest := foldlM_itemTokens items (fun w hw => hitems w (List.mem_cons_of_mem _ hw))
        [ofJson v] fs ts
      exact hfirst.trans hrest
  | .object [], _, e, he, fs, ts => foldlM_cons he fs .openObject nofun (.closeObject :: ts)
  | .object ((name, v) :: members), hv, e, he, fs, ts => by
    cases hv with
    | object hmembers =>
      simp only [tokens, List.cons_append, List.append_assoc]
      rw [foldlM_cons he fs .openObject nofun]
      have hfirst := foldlM_tokens v (hmembers (name, v) List.mem_cons_self) (e := .value)
        (.inl rfl) (.member [] (some name) :: fs) (memberTokens members ++ ts)
      have hrest := foldlM_memberTokens members
        (fun w hw => hmembers w (List.mem_cons_of_mem _ hw)) [(some name, ofJson v)] fs ts
      exact (foldlM_name (.inr rfl) [] fs name _).trans (hfirst.trans hrest)

theorem foldlM_itemTokens : (items : List Json) → (∀ v ∈ items, v.Faithful) →
    (done : List Source) → (fs : List Frame) → (ts : List Token) →
      (itemTokens items ++ ts).foldlM step ⟨.array done :: fs, .separator⟩ =
        (complete (.array (done.reverse ++ ofItems items)) fs).bind (ts.foldlM step)
  | [], _, done, fs, ts => by
    simp [itemTokens, step, close, ofItems]
  | v :: items, hitems, done, fs, ts => by
    simp only [itemTokens, List.cons_append, List.append_assoc, List.foldlM_cons]
    have hfirst := foldlM_tokens v (hitems v List.mem_cons_self) (e := .value)
      (.inl rfl) (.array done :: fs) (itemTokens items ++ ts)
    have hrest := foldlM_itemTokens items (fun w hw => hitems w (List.mem_cons_of_mem _ hw))
      (ofJson v :: done) fs ts
    rw [List.reverse_cons, List.append_assoc] at hrest
    exact hfirst.trans hrest

theorem foldlM_memberTokens : (members : List (String × Json)) → (∀ m ∈ members, m.2.Faithful) →
    (done : List (Option String × Source)) → (fs : List Frame) → (ts : List Token) →
      (memberTokens members ++ ts).foldlM step ⟨.object done :: fs, .separator⟩ =
        (complete (.object (done.reverse ++ ofMembers members)) fs).bind (ts.foldlM step)
  | [], _, done, fs, ts => by
    simp [memberTokens, step, close, ofMembers]
  | (name, v) :: members, hmembers, done, fs, ts => by
    simp only [memberTokens, List.cons_append, List.append_assoc, List.foldlM_cons]
    have hfirst := foldlM_tokens v (hmembers (name, v) List.mem_cons_self) (e := .value)
      (.inl rfl) (.member done (some name) :: fs) (memberTokens members ++ ts)
    have hrest := foldlM_memberTokens members
      (fun w hw => hmembers w (List.mem_cons_of_mem _ hw)) ((some name, ofJson v) :: done) fs ts
    rw [List.reverse_cons, List.append_assoc] at hrest
    exact (foldlM_name (.inl rfl) done fs name _).trans (hfirst.trans hrest)

end

theorem parse?_compact {v : Json} (h : v.Faithful) : parse? v.compact = some (ofJson v) := by
  have hfold := foldlM_tokens v h (e := .value) (.inl rfl) [] []
  simp only [List.append_nil] at hfold
  rw [parse?, Token.scan_compact h]
  simp only [Option.bind_some, ofTokens?, Partial.start, hfold]
  rfl

end Source

/-! ## From trees to values -/

mutual

/-- How deep brackets nest. -/
def depth : Json → Nat
  | .array items => itemsDepth items + 1
  | .object members => membersDepth members + 1
  | _ => 0

def itemsDepth : List Json → Nat
  | [] => 0
  | v :: rest => max v.depth (itemsDepth rest)

def membersDepth : List (String × Json) → Nat
  | [] => 0
  | (_, v) :: rest => max v.depth (membersDepth rest)

end

mutual

/-- The value with the members of all its objects in order, the last of each name. -/
def settled : Json → Json
  | .array items => .array (settledItems items)
  | .object members => ofMembers (settledMembers members)
  | v => v

def settledItems : List Json → List Json
  | [] => []
  | v :: rest => v.settled :: settledItems rest

def settledMembers : List (String × Json) → List (String × Json)
  | [] => []
  | (name, v) :: rest => (name, v.settled) :: settledMembers rest

end

/-- The members of all objects in a value stand in order. -/
inductive Ordered : Json → Prop where
  | null : Ordered .null
  | bool (b : Bool) : Ordered (.bool b)
  | number (n : Number) : Ordered (.number n)
  | string (s : String) : Ordered (.string s)
  | array {items : List Json} (h : ∀ v ∈ items, Ordered v) : Ordered (.array items)
  | object {members : List (String × Json)} (hkeys : Dict.Ascends members)
    (h : ∀ m ∈ members, Ordered m.2) : Ordered (.object members)

mutual

theorem value?_ofJson : (v : Json) → {limit : Nat} → v.depth ≤ limit →
    Source.value? limit (.ofJson v) = some v.settled
  | .null, _, _ => rfl
  | .bool _, _, _ => rfl
  | .number _, _, _ => rfl
  | .string _, _, _ => rfl
  | .array items, limit, h => by
    obtain ⟨limit, rfl⟩ := Nat.exists_eq_add_of_le' (Nat.le_trans (Nat.le_add_left 1 _) h)
    have hitems := items?_ofItems items (Nat.le_of_succ_le_succ h)
    simp [Source.ofJson, Source.value?, settled, hitems]
  | .object members, limit, h => by
    obtain ⟨limit, rfl⟩ := Nat.exists_eq_add_of_le' (Nat.le_trans (Nat.le_add_left 1 _) h)
    have hmembers := members?_ofMembers members (Nat.le_of_succ_le_succ h)
    simp [Source.ofJson, Source.value?, settled, hmembers]

theorem items?_ofItems : (items : List Json) → {limit : Nat} → itemsDepth items ≤ limit →
    Source.items? limit (Source.ofItems items) = some (settledItems items)
  | [], _, _ => rfl
  | v :: items, limit, h => by
    obtain ⟨hv, hitems⟩ := Nat.max_le.1 h
    simp [Source.ofItems, Source.items?, settledItems, value?_ofJson v hv,
      items?_ofItems items hitems]

theorem members?_ofMembers : (members : List (String × Json)) → {limit : Nat} →
    membersDepth members ≤ limit →
      Source.members? limit (Source.ofMembers members) = some (settledMembers members)
  | [], _, _ => rfl
  | (name, v) :: members, limit, h => by
    obtain ⟨hv, hmembers⟩ := Nat.max_le.1 h
    simp [Source.ofMembers, Source.members?, settledMembers, value?_ofJson v hv,
      members?_ofMembers members hmembers]

end

mutual

theorem settled_of_ordered : (v : Json) → v.Ordered → v.settled = v
  | .null, _ => rfl
  | .bool _, _ => rfl
  | .number _, _ => rfl
  | .string _, _ => rfl
  | .array items, h => by
    cases h with
    | array h => rw [settled, settledItems_of_ordered items h]
  | .object members, h => by
    cases h with
    | object hkeys h =>
      rw [settled, settledMembers_of_ordered members h, ofMembers, Dict.ofList_of_ascends hkeys]

theorem settledItems_of_ordered : (items : List Json) → (∀ v ∈ items, v.Ordered) →
    settledItems items = items
  | [], _ => rfl
  | v :: items, h => by
    rw [settledItems, settled_of_ordered v (h v List.mem_cons_self),
      settledItems_of_ordered items fun w hw => h w (List.mem_cons_of_mem _ hw)]

theorem settledMembers_of_ordered : (members : List (String × Json)) →
    (∀ m ∈ members, m.2.Ordered) → settledMembers members = members
  | [], _ => rfl
  | (name, v) :: members, h => by
    rw [settledMembers, settled_of_ordered v (h (name, v) List.mem_cons_self),
      settledMembers_of_ordered members fun w hw => h w (List.mem_cons_of_mem _ hw)]

end

/-! ## Texts -/

theorem parse?_compact {v : Json} (h : v.Faithful) (hdepth : v.depth ≤ depthLimit) :
    parse? v.compact = some v.settled := by
  rw [parse?, Source.parse?_compact h]
  exact value?_ofJson v hdepth

end Json

end EthRpc
