-- SUMMARY: Properties of a table of methods that the cache relies on, and which methods the stages leave alone.
import EthRpc.Method.Builtin

/-!
# Tables of methods

Keys tell requests apart if no name in the table has the sign that stands in the
keys of head methods. What is kept for ever is kept under what was asked for, so
nothing that may be pinned should be kept like that. Methods that the stages leave
alone are those of which nothing is known, listed or not.
-/

namespace EthRpc

/-! ## Entries -/

namespace Dict

variable {α : Type} {key : String} {v : α} {p : String × α}

theorem mem_of_get? {d : Dict α} (h : d.get? key = some v) : (key, v) ∈ d := by
  induction d with
  | nil => cases h
  | cons p rest ih =>
    obtain ⟨k, w⟩ := p
    rw [get?] at h
    split at h
    next hk =>
      cases h
      rw [hk]
      exact List.mem_cons_self
    next => exact List.mem_cons_of_mem _ (ih h)

theorem mem_of_mem_insert {d : Dict α} (h : p ∈ d.insert key v) : p = (key, v) ∨ p ∈ d := by
  induction d with
  | nil => exact .inl (List.mem_singleton.1 h)
  | cons q rest ih =>
    obtain ⟨k, w⟩ := q
    rw [insert] at h
    split at h
    · exact List.mem_cons.1 h
    · split at h
      · rcases List.mem_cons.1 h with hp | hp
        · exact .inl hp
        · exact .inr (List.mem_cons_of_mem _ hp)
      · rcases List.mem_cons.1 h with rfl | hp
        · exact .inr List.mem_cons_self
        · rcases ih hp with hp | hp
          · exact .inl hp
          · exact .inr (List.mem_cons_of_mem _ hp)

theorem mem_of_mem_ofList {pairs : List (String × α)} (h : p ∈ ofList pairs) : p ∈ pairs := by
  have hfold : ∀ (pairs : List (String × α)) (d : Dict α),
      p ∈ pairs.foldl (fun d p => d.insert p.1 p.2) d → p ∈ pairs ∨ p ∈ d := by
    intro pairs
    induction pairs with
    | nil => exact fun d hd => .inr hd
    | cons q pairs ih =>
      intro d hd
      rcases ih _ hd with hp | hp
      · exact .inl (List.mem_cons_of_mem _ hp)
      · rcases mem_of_mem_insert hp with rfl | hp
        · exact .inl List.mem_cons_self
        · exact .inr hp
  rcases hfold pairs [] h with hp | hp
  · exact hp
  · cases hp

end Dict

/-! ## Plain and timeless tables -/

namespace MethodTable

/-- No name in the table has the sign that stands in keys. -/
def Plain (methods : MethodTable) : Prop := ∀ e ∈ methods, '@' ∉ e.1.toList

/-- No method whose answers hold for ever reads at a block. -/
def Timeless (methods : MethodTable) : Prop :=
  ∀ e ∈ methods, e.2.cache = .permanent → e.2.blockParam = none

instance (methods : MethodTable) : Decidable methods.Plain :=
  inferInstanceAs (Decidable (∀ e ∈ methods, '@' ∉ e.1.toList))

instance (methods : MethodTable) : Decidable methods.Timeless :=
  inferInstanceAs (Decidable (∀ e ∈ methods, e.2.cache = .permanent → e.2.blockParam = none))

variable {methods : MethodTable}

/-- What the table says of a method that it does not list is that it knows nothing. -/
theorem spec_cases (methods : MethodTable) (method : String) :
    methods.spec method = .unclassified ∨ (method, methods.spec method) ∈ methods := by
  cases hget : Dict.get? method methods with
  | none => exact .inl (by simp [spec, hget])
  | some m =>
    refine .inr ?_
    have hspec : methods.spec method = m := by simp [spec, hget]
    rw [hspec]
    exact Dict.mem_of_get? hget

theorem Plain.not_mem (hplain : methods.Plain) (method : String)
    (h : (methods.spec method).cache ≠ .never) : '@' ∉ method.toList := by
  rcases methods.spec_cases method with hspec | hmem
  · rw [hspec] at h
    exact absurd rfl h
  · exact hplain _ hmem

theorem Timeless.blockParam (htimeless : methods.Timeless) (method : String)
    (h : (methods.spec method).cache = .permanent) : (methods.spec method).blockParam = none := by
  rcases methods.spec_cases method with hspec | hmem
  · rw [hspec]
    rfl
  · exact htimeless _ hmem h

/-! ## The known methods -/

theorem plain_builtin : Plain builtin := by
  have hentries : ∀ e ∈ builtinEntries, '@' ∉ e.1.toList := by decide +kernel
  exact fun e he => hentries e (Dict.mem_of_mem_ofList he)

theorem timeless_builtin : Timeless builtin := by
  have hentries : ∀ e ∈ builtinEntries, e.2.cache = .permanent → e.2.blockParam = none := by
    decide
  exact fun e he => hentries e (Dict.mem_of_mem_ofList he)

end MethodTable

/-! ## Methods that pass -/

/-- The stages do nothing for a method. -/
def MethodSpec.Passes (spec : MethodSpec) : Prop :=
  spec.cache = .never ∧ spec.blockParam = none ∧ spec.retryOnEmpty = false

instance (spec : MethodSpec) : Decidable spec.Passes :=
  inferInstanceAs (Decidable (_ ∧ _ ∧ _))

namespace MethodTable

theorem passes_of_unlisted {methods : MethodTable} {method : String}
    (h : Dict.get? method methods = none) : (methods.spec method).Passes := by
  rw [show methods.spec method = .unclassified by simp [spec, h]]
  exact ⟨rfl, rfl, rfl⟩

/-- What holds of all entries for a method, and of a method without entries, holds of what is known
of the method. -/
theorem spec_builtin {P : MethodSpec → Prop} {method : String} (hunlisted : P .unclassified)
    (hentries : ∀ e ∈ builtinEntries, e.1 = method → P e.2) : P (builtin.spec method) := by
  rcases builtin.spec_cases method with hspec | hmem
  · rw [hspec]
    exact hunlisted
  · have hentry := Dict.mem_of_mem_ofList hmem
    generalize builtin.spec method = spec at hentry ⊢
    exact hentries (method, spec) hentry rfl

theorem passes_of_never_builtin {method : String} (h : (builtin.spec method).cache = .never) :
    (builtin.spec method).Passes := by
  have hentries : ∀ e ∈ builtinEntries, e.2.cache = .never → e.2.Passes := by decide
  revert h
  exact spec_builtin (P := fun spec => spec.cache = .never → spec.Passes)
    (fun _ => ⟨rfl, rfl, rfl⟩) fun e he _ => hentries e he

theorem never_of_mem_uncachedMethods {method : String} (h : method ∈ uncachedMethods) :
    (builtin.spec method).cache = .never := by
  have hentries : ∀ e ∈ builtinEntries, e.1 ∈ uncachedMethods → e.2.cache = .never := by
    decide +kernel
  refine spec_builtin (P := fun spec => spec.cache = .never) rfl fun e he hname => ?_
  exact hentries e he (hname ▸ h)

end MethodTable

end EthRpc
