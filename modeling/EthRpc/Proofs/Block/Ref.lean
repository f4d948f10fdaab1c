-- SUMMARY: A block number that is written as a parameter refers to that block.
import Mathlib.Data.List.Induction
import EthRpc.Block.Ref
import EthRpc.Proofs.Digits

/-!
# Block references
-/

namespace EthRpc

theorem utf8ByteSize_ofList_of_ascii {cs : List Char} (h : ∀ c ∈ cs, c.utf8Size = 1) :
    (String.ofList cs).utf8ByteSize = cs.length := by
  induction cs using List.reverseRecOn with
  | nil => rfl
  | append_singleton cs c ih =>
    have hpush : String.ofList (cs ++ [c]) = (String.ofList cs).push c := by
      apply String.toList_injective
      simp
    rw [hpush, String.utf8ByteSize_push, ih fun d hd => h d (List.mem_append_left _ hd),
      h c (by simp)]
    simp

namespace Quantity

/-- A character of a canonical text. -/
theorem exists_digit_of_mem_text {n : Nat} {c : Char} (h : c ∈ (text n).toList) :
    c = 'x' ∨ ∃ d < 16, c = Nat.digitChar d := by
  simp only [text, String.toList_ofList, List.mem_cons] at h
  rcases h with rfl | rfl | hc
  · exact .inr ⟨0, by decide, rfl⟩
  · exact .inl rfl
  · exact .inr (exists_digit_of_mem_toDigits (by decide) (by decide) hc)

theorem utf8ByteSize_text_le {n : Nat} (hn : n < 1 <<< 64) : (text n).utf8ByteSize ≤ 18 := by
  have hdigits : ∀ d < 16, (Nat.digitChar d).utf8Size = 1 := by decide
  have hascii : ∀ c ∈ (text n).toList, c.utf8Size = 1 := by
    intro c hc
    rcases exists_digit_of_mem_text hc with rfl | ⟨d, hd, rfl⟩
    · rfl
    · exact hdigits d hd
  have hsize := utf8ByteSize_ofList_of_ascii hascii
  rw [String.ofList_toList] at hsize
  have hlength : (Nat.toDigits 16 n).length ≤ 16 :=
    (Nat.length_toDigits_le_iff (by decide) (by decide)).2 hn
  have htext : (text n).toList.length = (Nat.toDigits 16 n).length + 2 := by simp [text]
  omega

theorem lt_of_strict? {s : String} {n : Nat} (h : strict? s = some n) : n < 1 <<< 64 := by
  have hdigits : ∀ cs, hex?.digits cs = some n → n < 1 <<< 64 := by
    intro cs hcs
    obtain ⟨m, -, hm⟩ := Option.bind_eq_some_iff.1 hcs
    obtain ⟨rfl, hlt⟩ := below64?_eq_some_iff.1 hm
    exact hlt
  unfold strict? at h
  split at h
  · unfold hex? at h
    split at h
    · exact hdigits _ h
    · cases h
    · exact hdigits _ h
    · cases h
  · cases h

theorem toLower_text (n : Nat) : (text n).toList.map Char.toLower = (text n).toList := by
  have hid : ∀ c ∈ (text n).toList, c.toLower = id c := by
    intro c hc
    rcases exists_digit_of_mem_text hc with rfl | ⟨d, hd, rfl⟩
    · rfl
    · exact toLower_digitChar hd
  rw [List.map_congr_left hid, List.map_id]

end Quantity

namespace BlockRef

theorem ofText?_text {n : Nat} (hn : n < 1 <<< 64) :
    ofText? (Quantity.text n) = some (.number n) := by
  have hsize := Quantity.utf8ByteSize_text_le hn
  have hhash : looksLikeHash (Quantity.text n) = false := by
    have hne : (Quantity.text n).utf8ByteSize ≠ 66 := by omega
    simp [looksLikeHash, hne]
  have hne : ∀ t : BlockTag, t.text ≠ Quantity.text n := by
    intro t h
    have hlist := congrArg String.toList h
    cases t <;> simp [BlockTag.text, Quantity.text] at hlist
  have htag : BlockTag.ofText? (Quantity.text n) = none := by
    simp [BlockTag.ofText?, hne]
  simp [ofText?, hhash, tagOrNumber?, Quantity.toLower_text, htag, Quantity.strict?_text hn]

@[simp] theorem ofJson?_numberParam {n : Nat} (hn : n < 1 <<< 64) :
    ofJson? (numberParam n) = some (.number n) := by
  rw [numberParam, ofJson?, ofText?_text hn]

/-! ## Ranges -/

theorem lt_of_tagOrNumber? {s : String} {n : Nat} (h : tagOrNumber? s = some (.number n)) :
    n < 1 <<< 64 := by
  unfold tagOrNumber? at h
  dsimp only at h
  split at h
  · cases h
  · obtain ⟨m, hm, heq⟩ := Option.map_eq_some_iff.1 h
    cases heq
    exact Quantity.lt_of_strict? hm

mutual

/-- Block numbers fit into 64 bits. -/
theorem lt_of_ofJson? : (v : Json) → {n : Nat} → ofJson? v = some (.number n) → n < 1 <<< 64
  | .null, _, h | .bool _, _, h | .array _, _, h => by simp [ofJson?] at h
  | .number (.negative _), _, h | .number (.double _), _, h => by simp [ofJson?] at h
  | .number (.whole m), n, h => by
    rw [ofJson?] at h
    obtain ⟨k, hk, heq⟩ := Option.map_eq_some_iff.1 h
    cases heq
    obtain ⟨rfl, hlt⟩ := below64?_eq_some_iff.1 hk
    exact hlt
  | .string s, n, h => by
    rw [ofJson?, ofText?] at h
    split at h
    · obtain ⟨k, -, heq⟩ := Option.map_eq_some_iff.1 h
      cases heq
    · exact lt_of_tagOrNumber? h
  | .object members, n, h => by
    rw [ofJson?] at h
    split at h
    · obtain ⟨k, -, heq⟩ := Option.map_eq_some_iff.1 h
      cases heq
    · cases h
    · exact lt_of_ofNumberMember? members h

theorem lt_of_ofNumberMember? : (members : List (String × Json)) → {n : Nat} →
    ofNumberMember? members = some (.number n) → n < 1 <<< 64
  | [], _, h => by simp [ofNumberMember?] at h
  | (name, v) :: rest, n, h => by
    rw [ofNumberMember?] at h
    split at h
    · exact lt_of_ofJson? v h
    · exact lt_of_ofNumberMember? rest h

end

end BlockRef

end EthRpc
