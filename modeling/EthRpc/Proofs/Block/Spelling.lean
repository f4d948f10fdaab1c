-- SUMMARY: Which texts spell a number and which values name a tag, said without the readers.
import EthRpc.Proofs.Block.Ref

/-!
# Spellings

A number has one canonical text and many others: letters of either case, zeros in
front, a plus sign. A tag has a text in any letter case, and objects may carry it.
The readers of references accept exactly these.
-/

namespace EthRpc

/-! ## Letters and digits -/

/-- Lower case is a move by 32 places for the letters from `A` to `Z`. -/
theorem toNat_toLower (c : Char) :
    c.toLower.toNat = if 65 ≤ c.toNat ∧ c.toNat ≤ 90 then c.toNat + 32 else c.toNat := by
  unfold Char.toLower
  by_cases h : c.val ≥ 'A'.val ∧ c.val ≤ 'Z'.val
  · have hrange : 65 ≤ c.toNat ∧ c.toNat ≤ 90 := h
    rw [dif_pos h, if_pos hrange]
    have hsum : (c.val + ('a'.val - 'A'.val)).toNat = c.toNat + 32 := by
      rw [UInt32.toNat_add]
      exact Nat.mod_eq_of_lt (a := c.toNat + 32) (by omega)
    exact hsum
  · have hrange : ¬(65 ≤ c.toNat ∧ c.toNat ≤ 90) := h
    rw [dif_neg h, if_neg hrange]

theorem toNat_lt_of_toLower_lt {c : Char} (h : c.toLower.toNat < 128) : c.toNat < 128 := by
  have hcase := toNat_toLower c
  split at hcase <;> omega

theorem toLower_toLower (c : Char) : c.toLower.toLower = c.toLower := by
  apply Char.toNat_inj.1
  have hagain := toNat_toLower c.toLower
  have honce := toNat_toLower c
  split at honce <;> split at hagain <;> omega

theorem digitValue?_eq (c : Char) :
    digitValue? c = if 48 ≤ c.toNat ∧ c.toNat ≤ 57 then some (c.toNat - 48)
      else if 97 ≤ c.toNat ∧ c.toNat ≤ 122 then some (c.toNat - 87)
      else if 65 ≤ c.toNat ∧ c.toNat ≤ 90 then some (c.toNat - 55) else none := rfl

/-- Digits have the same value in either case. -/
theorem digitValue?_toLower (c : Char) : digitValue? c.toLower = digitValue? c := by
  rw [digitValue?_eq, digitValue?_eq, toNat_toLower]
  by_cases hupper : 65 ≤ c.toNat ∧ c.toNat ≤ 90
  · have hmoved : c.toNat + 32 - 87 = c.toNat - 55 := by omega
    simp (disch := omega) only [hupper, and_self, if_true, if_neg, if_pos, hmoved]
  · rw [if_neg hupper]

theorem readDigits?_map_toLower (acc : Nat) (cs : List Char) :
    readDigits? 16 acc (cs.map Char.toLower) = readDigits? 16 acc cs := by
  induction cs generalizing acc with
  | nil => rfl
  | cons c cs ih => simp only [List.map_cons, readDigits?, digitIn?, digitValue?_toLower, ih]

/-- A hexadecimal digit in lower case is the one that its value is written with. -/
theorem eq_digitChar_of_digitIn? {c : Char} {d : Nat} (h : digitIn? 16 c = some d)
    (hlower : c.toLower = c) : d < 16 ∧ c = Nat.digitChar d := by
  obtain ⟨hvalue, hlt⟩ := Option.filter_eq_some_iff.1 h
  have hd : d < 16 := by simpa using hlt
  have hdigit : ∀ n < 16, (Nat.digitChar n).toNat = n + if n < 10 then 48 else 87 := by decide
  refine ⟨hd, Char.toNat_inj.1 ?_⟩
  rw [hdigit d hd]
  unfold digitValue? at hvalue
  split at hvalue
  case isTrue hdecimal =>
    have hrange : 48 ≤ c.toNat ∧ c.toNat ≤ 57 := hdecimal
    cases hvalue
    split <;> omega
  case isFalse =>
    split at hvalue
    case isTrue hletter =>
      have hrange : 97 ≤ c.toNat ∧ c.toNat ≤ 122 := hletter
      cases hvalue
      split <;> omega
    case isFalse =>
      split at hvalue
      case isTrue hupper =>
        have hrange : 65 ≤ c.toNat ∧ c.toNat ≤ 90 := hupper
        have hmoved := toNat_toLower c
        rw [hlower, if_pos hrange] at hmoved
        omega
      case isFalse => cases hvalue

/-- Digits in lower case are those of the number that they are read as, behind some zeros. -/
theorem exists_zeros_of_readDigits? {ds : List Char} {n : Nat} (hne : ds ≠ [])
    (hlower : ∀ c ∈ ds, c.toLower = c) (h : readDigits? 16 0 ds = some n) :
    ∃ zeros, ds = List.replicate zeros '0' ++ Nat.toDigits 16 n := by
  induction ds using List.reverseRecOn generalizing n with
  | nil => exact absurd rfl hne
  | append_singleton ds c ih =>
    rw [readDigits?_append] at h
    obtain ⟨m, hm, hc⟩ := Option.bind_eq_some_iff.1 h
    obtain ⟨d, hd, hn⟩ := Option.bind_eq_some_iff.1 hc
    obtain rfl : 16 * m + d = n := Option.some.inj hn
    obtain ⟨hlt, rfl⟩ := eq_digitChar_of_digitIn? hd (hlower c (by simp))
    rcases Nat.eq_zero_or_pos m with rfl | hpos
    · -- All digits before the last one are zeros.
      have hdigit : Nat.toDigits 16 (16 * 0 + d) = [Nat.digitChar d] := by
        rw [Nat.mul_zero, Nat.zero_add, Nat.toDigits_of_lt_base hlt]
      rw [hdigit]
      by_cases hds : ds = []
      · exact ⟨0, by simp [hds]⟩
      · obtain ⟨zeros, hzeros⟩ := ih hds (fun e he => hlower e (by simp [he])) hm
        refine ⟨zeros + 1, ?_⟩
        rw [hzeros, List.replicate_succ']
        rfl
    · have hds : ds ≠ [] := by
        rintro rfl
        cases hm
        cases hpos
      obtain ⟨zeros, hzeros⟩ := ih hds (fun e he => hlower e (by simp [he])) hm
      have hdigits : Nat.toDigits 16 (16 * m + d) = Nat.toDigits 16 m ++ [Nat.digitChar d] := by
        have hdiv : (16 * m + d) / 16 = m := by omega
        have hmod : (16 * m + d) % 16 = d := by omega
        rw [Nat.toDigits_of_base_le (by decide) (by omega), hdiv, hmod]
      exact ⟨zeros, by rw [hdigits, hzeros, List.append_assoc]⟩

/-! ## Texts of numbers -/

/-- The characters of a text, in lower case. -/
def lowered (s : String) : List Char := s.toList.map Char.toLower

theorem toLower_of_mem_lowered {s : String} {c : Char} (h : c ∈ lowered s) : c.toLower = c := by
  obtain ⟨d, -, rfl⟩ := List.mem_map.1 h
  exact toLower_toLower d

namespace Quantity

/-- A text spells a number by `0x`, a plus sign or none, any zeros, and its digits, all in letters of
either case. -/
def Spells (s : String) (n : Nat) : Prop :=
  ∃ sign zeros, (sign = [] ∨ sign = ['+']) ∧
    lowered s = '0' :: 'x' :: (sign ++ (List.replicate zeros '0' ++ Nat.toDigits 16 n))

theorem hex?_cons_of_ne {c : Char} {rest : List Char} (hc : c ≠ '+') :
    hex? (c :: rest) = hex?.digits (c :: rest) := by
  unfold hex?
  split <;> simp_all

/-- Digits are what they are, and a plus sign before them counts for nothing. -/
theorem hex?_of_digits {sign ds : List Char} (hsign : sign = [] ∨ sign = ['+']) (hne : ds ≠ [])
    (hplus : '+' ∉ ds) : hex? (sign ++ ds) = hex?.digits ds := by
  obtain ⟨c, rest, rfl⟩ := List.exists_cons_of_ne_nil hne
  rcases hsign with rfl | rfl
  · have hc : c ≠ '+' := by
      rintro rfl
      simp at hplus
    exact hex?_cons_of_ne hc
  · rfl

theorem exists_sign_of_hex? {cs : List Char} {n : Nat} (h : hex? cs = some n) :
    ∃ sign ds, (sign = [] ∨ sign = ['+']) ∧ cs = sign ++ ds ∧ ds ≠ [] ∧
      hex?.digits ds = some n := by
  unfold hex? at h
  split at h
  next => exact ⟨['+'], _, .inr rfl, rfl, by simp, h⟩
  next => cases h
  next => exact ⟨[], _, .inl rfl, rfl, by simp, h⟩
  next => cases h

theorem digits_eq_some_iff {ds : List Char} {n : Nat} :
    hex?.digits ds = some n ↔ readDigits? 16 0 ds = some n ∧ n < 1 <<< 64 := by
  constructor
  · intro h
    obtain ⟨m, hm, hn⟩ := Option.bind_eq_some_iff.1 h
    obtain ⟨rfl, hlt⟩ := below64?_eq_some_iff.1 hn
    exact ⟨hm, hlt⟩
  · rintro ⟨hread, hlt⟩
    exact Option.bind_eq_some_iff.2 ⟨n, hread, below64?_eq_some_iff.2 ⟨rfl, hlt⟩⟩

/-- A spelling is read as its number, if this is not out of range. -/
theorem strict?_lowered_of_spells {s : String} {n : Nat} (h : Spells s n) :
    strict? (String.ofList (lowered s)) = below64? n := by
  obtain ⟨sign, zeros, hsign, hlist⟩ := h
  have hne : List.replicate zeros '0' ++ Nat.toDigits 16 n ≠ [] := by
    simp [Nat.toDigits_ne_nil]
  have hplus : '+' ∉ List.replicate zeros '0' ++ Nat.toDigits 16 n := by
    have hdigit : ∀ d < 16, Nat.digitChar d ≠ '+' := by decide
    intro hmem
    obtain ⟨d, hd, heq⟩ := exists_digit_of_mem_zeros_toDigits (by decide) (by decide) hmem
    exact hdigit d hd heq.symm
  have hread := readDigits?_zeros_toDigits (b := 16) (by decide) (by decide) zeros n
  simp only [strict?, String.toList_ofList, hlist]
  rw [hex?_of_digits hsign hne hplus, hex?.digits, hread, Option.bind_some]

/-- The strict reader takes exactly the spellings of the numbers that fit into 64 bits. -/
theorem strict?_lowered_iff {s : String} {n : Nat} :
    strict? (String.ofList (lowered s)) = some n ↔ Spells s n ∧ n < 1 <<< 64 := by
  constructor
  · intro h
    unfold strict? at h
    split at h
    next rest hlist =>
      rw [String.toList_ofList] at hlist
      obtain ⟨sign, ds, hsign, rfl, hne, hdigits⟩ := exists_sign_of_hex? h
      obtain ⟨hread, hlt⟩ := digits_eq_some_iff.1 hdigits
      have hlower : ∀ c ∈ ds, c.toLower = c :=
        fun c hc => toLower_of_mem_lowered (s := s) (by simp [hlist, hc])
      obtain ⟨zeros, rfl⟩ := exists_zeros_of_readDigits? hne hlower hread
      exact ⟨⟨sign, zeros, hsign, hlist⟩, hlt⟩
    next => cases h
  · rintro ⟨hspells, hlt⟩
    rw [strict?_lowered_of_spells hspells]
    exact below64?_eq_some_iff.2 ⟨rfl, hlt⟩

theorem hex?_map_toLower (cs : List Char) : hex? (cs.map Char.toLower) = hex? cs := by
  have hdigits (ds : List Char) : hex?.digits (ds.map Char.toLower) = hex?.digits ds := by
    rw [hex?.digits, readDigits?_map_toLower, hex?.digits]
  cases cs with
  | nil => rfl
  | cons c rest =>
    by_cases hc : c = '+'
    · subst hc
      cases rest with
      | nil => rfl
      | cons d rest => exact hdigits (d :: rest)
    · have hplus : c.toLower ≠ '+' := by
        intro heq
        have hnat := toNat_toLower c
        rw [heq] at hnat
        have hcode : '+'.toNat = 43 := rfl
        refine hc (Char.toNat_inj.1 ?_)
        split at hnat <;> omega
      rw [List.map_cons, hex?_cons_of_ne hplus, hex?_cons_of_ne hc]
      exact hdigits (c :: rest)

/-- The strict reader takes exactly the spellings of the numbers that fit into 64 bits, if they
begin with `0x` in lower case. -/
theorem strict?_eq_some_iff {s : String} {n : Nat} :
    strict? s = some n ↔ ['0', 'x'] <+: s.toList ∧ Spells s n ∧ n < 1 <<< 64 := by
  have hlowered {rest : List Char} (hlist : s.toList = '0' :: 'x' :: rest) :
      strict? (String.ofList (lowered s)) = strict? s := by
    have hlower : lowered s = '0' :: 'x' :: rest.map Char.toLower := by
      rw [lowered, hlist]
      rfl
    simp only [strict?, String.toList_ofList, hlower, hlist, hex?_map_toLower]
  rw [← strict?_lowered_iff]
  constructor
  · intro h
    unfold strict? at h
    split at h
    next rest hlist =>
      refine ⟨⟨rest, hlist.symm⟩, ?_⟩
      rw [hlowered hlist, strict?, hlist]
      exact h
    next => cases h
  · rintro ⟨⟨rest, hlist⟩, h⟩
    rwa [hlowered hlist.symm] at h

end Quantity

/-! ## Tags -/

namespace BlockTag

theorem ofText?_eq_some_iff {s : String} {t : BlockTag} : ofText? s = some t ↔ s = t.text := by
  constructor
  · intro h
    have hfound := List.find?_some h
    exact (by simpa using hfound : t.text = s).symm
  · rintro rfl
    cases t <;> decide

end BlockTag

namespace BlockRef

theorem tagOrNumber?_eq (s : String) :
    tagOrNumber? s =
      match BlockTag.ofText? (String.ofList (lowered s)) with
      | some t => some (.tag t)
      | none => (Quantity.strict? (String.ofList (lowered s))).map .number := rfl

theorem tagOrNumber?_eq_tag_iff {s : String} {t : BlockTag} :
    tagOrNumber? s = some (.tag t) ↔ lowered s = t.text.toList := by
  have htext : String.ofList (lowered s) = t.text ↔ lowered s = t.text.toList := by
    rw [← String.toList_inj, String.toList_ofList]
  rw [← htext, ← BlockTag.ofText?_eq_some_iff, tagOrNumber?_eq]
  split
  next t' ht' => simp [ht']
  next hnone => simp [hnone]

/-- A text that spells a number is no tag. -/
theorem tagOrNumber?_eq_number_iff {s : String} {n : Nat} :
    tagOrNumber? s = some (.number n) ↔ Quantity.Spells s n ∧ n < 1 <<< 64 := by
  rw [← Quantity.strict?_lowered_iff, tagOrNumber?_eq]
  split
  next t ht =>
    have hnot : Quantity.strict? (String.ofList (lowered s)) = none := by
      rw [BlockTag.ofText?_eq_some_iff.1 ht]
      cases t <;> decide
    simp [hnot]
  next => simp

/-- What looks like a hash is never a tag. -/
theorem ofText?_eq_tag_iff {s : String} {t : BlockTag} :
    ofText? s = some (.tag t) ↔ lowered s = t.text.toList := by
  rw [← tagOrNumber?_eq_tag_iff]
  unfold ofText?
  split
  next hhash =>
    have hstart : s.toList.take 2 = ['0', 'x'] := by simpa using (Bool.and_eq_true_iff.1 hhash).2
    have hnot : ¬lowered s = t.text.toList := by
      intro h
      have htake : (lowered s).take 2 = ['0', 'x'] := by
        rw [lowered, ← List.map_take, hstart]
        rfl
      rw [h] at htake
      cases t <;> simp [BlockTag.text] at htake
    rw [tagOrNumber?_eq_tag_iff]
    cases Hash32.ofText? s <;> simp [hnot]
  next => rfl

theorem ofText?_eq_number_iff {s : String} {n : Nat} :
    ofText? s = some (.number n) ↔
      looksLikeHash s = false ∧ Quantity.Spells s n ∧ n < 1 <<< 64 := by
  rw [← tagOrNumber?_eq_number_iff]
  unfold ofText?
  split
  next hhash => cases Hash32.ofText? s <;> simp [hhash]
  next hhash => simp [hhash]

/-! ## Values -/

theorem ofJson?_string_iff {s : String} {n : Nat} :
    ofJson? (.string s) = some (.number n) ↔
      looksLikeHash s = false ∧ Quantity.Spells s n ∧ n < 1 <<< 64 := by
  rw [ofJson?]
  exact ofText?_eq_number_iff

theorem ofJson?_ofNat_iff {k n : Nat} :
    ofJson? (.ofNat k) = some (.number n) ↔ k = n ∧ k < 1 <<< 64 := by
  rw [Json.ofNat, ofJson?, Option.map_eq_some_iff]
  simp [below64?_eq_some_iff]

theorem ofNumberMember?_eq (members : List (String × Json)) :
    ofNumberMember? members = (Dict.get? "blockNumber" members).bind ofJson? := by
  induction members with
  | nil => rfl
  | cons member rest ih =>
    obtain ⟨name, v⟩ := member
    rw [ofNumberMember?, Dict.get?, ih]
    by_cases hname : name = "blockNumber"
    · simp [hname]
    · simp [hname, Ne.symm hname]

/-- A member of an object that has no hash stands for the object. -/
def Member (members : List (String × Json)) (v : Json) : Prop :=
  Dict.get? "blockHash" members = none ∧ Dict.get? "blockNumber" members = some v

/-- What is no hash is read off the member that stands for an object. -/
theorem ofJson?_object_iff {members : List (String × Json)} {r : BlockRef}
    (hr : ∀ h, r ≠ .hash h) :
    ofJson? (.object members) = some r ↔ ∃ v, Member members v ∧ ofJson? v = some r := by
  rw [ofJson?]
  unfold Member
  split
  next h hhash =>
    have hnot : (Hash32.ofText? h).map .hash ≠ some r := by
      intro heq
      obtain ⟨k, -, rfl⟩ := Option.map_eq_some_iff.1 heq
      exact hr k rfl
    simp [hhash, hnot]
  next hhash => simp [hhash]
  next hhash => simp [hhash, ofNumberMember?_eq, Option.bind_eq_some_iff]

/-! ## Chains of objects -/

/-- A value is the other one, or an object without hash whose block number leads to it. -/
inductive LeadsTo : Json → Json → Prop where
  | refl (v : Json) : LeadsTo v v
  | member {members : List (String × Json)} {v w : Json} :
      Member members v → LeadsTo v w → LeadsTo (.object members) w

/-- A value that leads no further. -/
def IsEnd (w : Json) : Prop := ∀ members v, w = .object members → ¬Member members v

theorem sizeOf_lt_of_member {members : List (String × Json)} {v : Json}
    (h : Member members v) : sizeOf v < sizeOf members := by
  obtain ⟨-, hget⟩ := h
  induction members with
  | nil => cases hget
  | cons member rest ih =>
    obtain ⟨name, w⟩ := member
    simp only [Dict.get?] at hget
    split at hget
    · cases hget
      simp only [List.cons.sizeOf_spec, Prod.mk.sizeOf_spec]
      omega
    · have hrest := ih hget
      simp only [List.cons.sizeOf_spec]
      omega

theorem ofJson?_of_member {members : List (String × Json)} {v : Json} (h : Member members v) :
    ofJson? (.object members) = ofJson? v := by
  obtain ⟨hhash, hnumber⟩ := h
  rw [ofJson?, hhash]
  simp only [ofNumberMember?_eq, hnumber, Option.bind_some]

theorem LeadsTo.ofJson?_eq {v w : Json} (h : LeadsTo v w) : ofJson? v = ofJson? w := by
  induction h with
  | refl => rfl
  | member hmember _ ih => rw [ofJson?_of_member hmember, ih]

/-- Every chain of objects comes to an end. -/
theorem exists_end (v : Json) : ∃ w, LeadsTo v w ∧ IsEnd w := by
  by_cases hend : IsEnd v
  · exact ⟨v, .refl v, hend⟩
  · simp only [IsEnd, not_forall, not_not] at hend
    obtain ⟨members, u, rfl, hmember⟩ := hend
    have hlt := sizeOf_lt_of_member hmember
    obtain ⟨w, hleads, hend⟩ := exists_end u
    exact ⟨w, .member hmember hleads, hend⟩
termination_by sizeOf v
decreasing_by
  subst_vars
  simp only [Json.object.sizeOf_spec]
  omega

/-! ## Tags in values -/

/-- A value names a tag by its text, or as an object whose block number does. -/
inductive NamesTag (t : BlockTag) : Json → Prop where
  | text {s : String} : lowered s = t.text.toList → NamesTag t (.string s)
  | member {members : List (String × Json)} {v : Json} :
      Member members v → NamesTag t v → NamesTag t (.object members)

theorem namesTag_of_leadsTo {t : BlockTag} {v w : Json} (h : LeadsTo v w) (hw : NamesTag t w) :
    NamesTag t v := by
  induction h with
  | refl => exact hw
  | member hmember _ ih => exact .member hmember (ih hw)

theorem namesTag_of_ofJson? {t : BlockTag} {v : Json} (h : ofJson? v = some (.tag t)) :
    NamesTag t v := by
  obtain ⟨w, hleads, hend⟩ := exists_end v
  rw [hleads.ofJson?_eq] at h
  refine namesTag_of_leadsTo hleads ?_
  match w, h with
  | .string s, h =>
    rw [ofJson?] at h
    exact .text (ofText?_eq_tag_iff.1 h)
  | .object members, h =>
    obtain ⟨u, hmember, -⟩ := (ofJson?_object_iff (by simp)).1 h
    exact absurd hmember (hend members u rfl)
  | .null, h | .bool _, h | .array _, h | .number (.negative _), h | .number (.double _), h =>
    simp [ofJson?] at h
  | .number (.whole n), h =>
    rw [ofJson?] at h
    cases hn : below64? n <;> simp [hn] at h

theorem ofJson?_eq_tag_iff {t : BlockTag} {v : Json} :
    ofJson? v = some (.tag t) ↔ NamesTag t v := by
  refine ⟨namesTag_of_ofJson?, fun h => ?_⟩
  induction h with
  | text hs =>
    rw [ofJson?]
    exact ofText?_eq_tag_iff.2 hs
  | member hmember _ ih => exact (ofJson?_object_iff (by simp)).2 ⟨_, hmember, ih⟩

end BlockRef

end EthRpc
