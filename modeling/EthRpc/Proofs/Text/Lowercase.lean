-- SUMMARY: For a text of ASCII letters without k, the lower case of all scripts is that of ASCII.
import EthRpc.Proofs.Block.Spelling
import EthRpc.Text.Lowercase

/-!
# Lower case within ASCII

The Kelvin sign is the only letter outside ASCII whose lower case is within, and
it is k. So where a word without k is looked for in any letter case, it is enough
to put the letters from A to Z into lower case.
-/

namespace EthRpc.Text

/-! ## Single letters -/

/-- A run is part of ASCII, or its lower case is outside and consists of characters, or it is the
Kelvin sign. -/
def StaysOutside : Nat × Nat × Nat × Int → Prop
  | (first, count, step, distance) =>
    first + count * step ≤ 128 ∨
      128 ≤ first + distance ∧ first + count * step + distance ≤ 0xd800 ∨
      0xdfff < first + distance ∧ first + count * step + distance ≤ 0x110000 ∨
      count * step = 1 ∧ first + distance = 'k'.toNat

instance (run : Nat × Nat × Nat × Int) : Decidable (StaysOutside run) :=
  match run with
  | (_, _, _, _) => inferInstanceAs (Decidable (_ ∨ _ ∨ _ ∨ _))

theorem staysOutside_of_mem : ∀ run ∈ lowercaseRuns, StaysOutside run := by
  decide +kernel

theorem lowerCode?_cases {code low : Nat} (hcode : 128 ≤ code) (h : lowerCode? code = some low) :
    128 ≤ low ∧ low.isValidChar ∨ low = 'k'.toNat := by
  obtain ⟨⟨first, count, step, distance⟩, hmem, hrun⟩ := List.exists_of_findSome?_eq_some h
  obtain ⟨⟨hfirst, hlast, -⟩, heq⟩ := Option.ite_none_right_eq_some.1 hrun
  obtain rfl : (code + distance).toNat = low := Option.some.inj heq
  rcases staysOutside_of_mem _ hmem with hascii | ⟨hlow, hhigh⟩ | ⟨hlow, hhigh⟩ | ⟨hone, hkelvin⟩
  · omega
  · refine .inl ⟨by omega, .inl ?_⟩
    omega
  · refine .inl ⟨by omega, .inr ?_⟩
    omega
  · right
    omega

/-- The lower case of a letter outside ASCII has something outside ASCII in it, or is a k. -/
theorem exists_mem_lowerChar {c : Char} (h : 128 ≤ c.toNat) :
    ∃ d ∈ lowerChar c, 128 ≤ d.toNat ∨ d = 'k' := by
  unfold lowerChar
  rw [if_neg (Nat.not_lt.2 h)]
  split
  next => exact ⟨'\u0307', by simp, .inl (by decide)⟩
  next =>
    split
    next code hcode =>
      refine ⟨_, List.mem_singleton_self _, ?_⟩
      rcases lowerCode?_cases h hcode with ⟨hlow, hvalid⟩ | rfl
      · left
        rwa [Char.ofNat, dif_pos hvalid]
      · exact .inr (Char.ofNat_toNat 'k')
    next => exact ⟨c, List.mem_singleton_self c, .inl h⟩

/-! ## Texts -/

theorem lowerFrom_of_ascii {cs : List Char} (h : ∀ c ∈ cs, c.toNat < 128) (before : List Char) :
    lowerFrom before cs = cs.map Char.toLower := by
  induction cs generalizing before with
  | nil => rfl
  | cons c cs ih =>
    have hc : c.toNat < 128 := h c List.mem_cons_self
    have hsigma : c ≠ 'Σ' := by
      rintro rfl
      exact absurd hc (by decide)
    rw [lowerFrom, ih fun d hd => h d (List.mem_cons_of_mem c hd)]
    simp [hsigma, lowerChar, hc]

theorem exists_mem_lowerFrom {cs : List Char} {c : Char} (hmem : c ∈ cs) (hc : 128 ≤ c.toNat)
    (before : List Char) : ∃ d ∈ lowerFrom before cs, 128 ≤ d.toNat ∨ d = 'k' := by
  induction cs generalizing before with
  | nil => cases hmem
  | cons e cs ih =>
    simp only [lowerFrom, List.mem_append]
    rcases List.mem_cons.1 hmem with rfl | hmem
    · split
      · exact ⟨'ς', .inl (List.mem_singleton_self _), .inl (by decide)⟩
      · obtain ⟨d, hd, hout⟩ := exists_mem_lowerChar hc
        exact ⟨d, .inl hd, hout⟩
    · obtain ⟨d, hd, hout⟩ := ih hmem (e :: before)
      exact ⟨d, .inr hd, hout⟩

/-- Which texts have a lower case in ASCII, but for k, is seen from the letters of ASCII alone. -/
theorem lowercase_eq_iff {s : String} {cs : List Char} (h : ∀ c ∈ cs, c.toNat < 128 ∧ c ≠ 'k') :
    (lowercase s).toList = cs ↔ lowered s = cs := by
  have hagree (hascii : ∀ c ∈ s.toList, c.toNat < 128) : (lowercase s).toList = lowered s := by
    rw [lowercase, String.toList_ofList, lowerFrom_of_ascii hascii, lowered]
  constructor
  · intro hlower
    rw [← hagree fun c hc => ?_, hlower]
    by_contra hout
    obtain ⟨d, hd, hoff⟩ := exists_mem_lowerFrom hc (Nat.not_lt.1 hout) []
    have hd : d ∈ cs := by
      rwa [← hlower, lowercase, String.toList_ofList]
    have hin := h d hd
    rcases hoff with hoff | hoff
    · omega
    · exact hin.2 hoff
  · rintro rfl
    exact hagree fun c hc => toNat_lt_of_toLower_lt (h _ (List.mem_map_of_mem hc)).1

end EthRpc.Text
