-- SUMMARY: A parameter refers to a block exactly if its text is a hash, a number or a tag, or it is an object that leads to one.
import EthRpc.Proofs.Hexadecimal
import EthRpc.Proofs.Text.Lowercase

/-!
# Reading references

An object without hash stands for its block number, which may be an object again.
At the end of such a chain is a hash, a number, a tag or nothing that names a
block. What each of them looks like is said here without the reader, and the
reader takes exactly these.
-/

namespace EthRpc.BlockRef

/-! ## Ends of chains -/

/-- A text of 66 bytes that starts with `0x`. -/
def HashLike (s : String) : Prop := s.utf8ByteSize = 66 ∧ ['0', 'x'] <+: s.toList

/-- A hash is named by its digits after `0x`, or by the member `blockHash`, where one of some marks
stands before the digits. -/
inductive NamesHash (marks : List (List Char)) (h : Hash32) : Json → Prop where
  | text {s : String} {digits : List Char} :
      s.toList = '0' :: 'x' :: digits → h.Written digits → NamesHash marks h (.string s)
  | member {members : List (String × Json)} {s : String} {mark digits : List Char} :
      Dict.get? "blockHash" members = some (.string s) → mark ∈ marks →
      s.toList = mark ++ digits → h.Written digits → NamesHash marks h (.object members)

/-- A number is named by itself or, unless it is like a hash, by a text whose lower case is `0x`, a
plus sign or none, and hexadecimal digits. -/
inductive NamesNumber (n : Nat) : Json → Prop where
  | whole : NamesNumber n (.number (.whole n))
  | text {s : String} {sign digits : List Char} :
      ¬HashLike s → (sign = [] ∨ sign = ['+']) →
      (Text.lowercase s).toList = '0' :: 'x' :: (sign ++ digits) → Hexadecimal digits n →
      NamesNumber n (.string s)

theorem looksLikeHash_iff {s : String} : looksLikeHash s = true ↔ HashLike s := by
  rw [looksLikeHash, HashLike, Bool.and_eq_true, beq_iff_eq, beq_iff_eq]
  refine and_congr_right fun _ => ?_
  rw [List.prefix_iff_eq_take, eq_comm]
  rfl

/-- What names a block at the end of a chain. -/
def Names : BlockRef → Json → Prop
  | .hash h, w => NamesHash Hash32.marks h w
  | .number n, w => n < 1 <<< 64 ∧ NamesNumber n w
  | .tag t, w => ∃ s, w = .string s ∧ Text.lowercase s = t.text

/-! ### Texts -/

theorem hashLike_of_written {s : String} {h : Hash32} {digits : List Char}
    (hs : s.toList = '0' :: 'x' :: digits) (hw : h.Written digits) : HashLike s := by
  refine ⟨?_, digits, hs.symm⟩
  have hascii : ∀ c ∈ s.toList, c.utf8Size = 1 := by
    intro c hc
    have hmem : c = '0' ∨ c = 'x' ∨ c ∈ digits := by simpa [hs] using hc
    rcases hmem with rfl | rfl | hmem
    · rfl
    · rfl
    · have hlt : c.toNat < 128 := (hw.of_mem hmem).1
      exact Char.utf8Size_eq_one_iff.2 (UInt32.le_iff_toNat_le.2 (Nat.le_of_lt_succ hlt))
  have hsize := utf8ByteSize_ofList_of_ascii hascii
  rw [String.ofList_toList] at hsize
  rw [hsize, hs, List.length_cons, List.length_cons, hw.1]

theorem ofText?_eq_hash_iff {s : String} {h : Hash32} :
    ofText? s = some (.hash h) ↔
      ∃ digits, s.toList = '0' :: 'x' :: digits ∧ h.Written digits := by
  have hread {digits : List Char} (hs : s.toList = '0' :: 'x' :: digits) :
      Hash32.ofText? s = some h ↔ h.Written digits := by
    simp only [← Hash32.ofDigits?_eq_some_iff, Hash32.ofText?, hs]
  unfold ofText?
  split
  next hlooks =>
    obtain ⟨-, digits, hs⟩ := looksLikeHash_iff.1 hlooks
    have hmap : (Hash32.ofText? s).map BlockRef.hash = some (.hash h) ↔
        Hash32.ofText? s = some h := by
      simp
    rw [hmap, hread hs.symm]
    constructor
    · intro hw
      exact ⟨digits, hs.symm, hw⟩
    · rintro ⟨digits', hs', hw⟩
      rw [← hs] at hs'
      cases hs'
      exact hw
  next hlooks =>
    refine iff_of_false ?_ ?_
    · rw [tagOrNumber?_eq]
      split <;> simp
    · rintro ⟨digits, hs, hw⟩
      exact hlooks (looksLikeHash_iff.2 (hashLike_of_written hs hw))

/-- Where no hash is looked for, a spelling is read as its number, if this is not out of range. -/
theorem ofText?_of_spells {s : String} {n : Nat} (hhash : ¬HashLike s)
    (h : Quantity.Spells s n) : ofText? s = (below64? n).map .number := by
  have htag : BlockTag.ofText? (String.ofList (lowered s)) = none := by
    obtain ⟨sign, zeros, -, hlower⟩ := h
    rw [Option.eq_none_iff_forall_ne_some]
    intro t ht
    have hlist := congrArg String.toList (BlockTag.ofText?_eq_some_iff.1 ht)
    rw [String.toList_ofList, hlower] at hlist
    cases t <;> simp [BlockTag.text] at hlist
  rw [ofText?, if_neg (mt looksLikeHash_iff.1 hhash), tagOrNumber?_eq, htag,
    ← Quantity.strict?_lowered_of_spells h]

theorem spells_iff_lowercase {s : String} {n : Nat} :
    Quantity.Spells s n ↔ ∃ sign digits, (sign = [] ∨ sign = ['+']) ∧
      (Text.lowercase s).toList = '0' :: 'x' :: (sign ++ digits) ∧ Hexadecimal digits n := by
  have hdigit : ∀ d < 16, (Nat.digitChar d).toNat < 128 ∧ Nat.digitChar d ≠ 'k' := by decide
  have hlower {sign digits : List Char} (hsign : sign = [] ∨ sign = ['+'])
      (hdigits : Hexadecimal digits n) :
      (Text.lowercase s).toList = '0' :: 'x' :: (sign ++ digits) ↔
        lowered s = '0' :: 'x' :: (sign ++ digits) := by
    refine Text.lowercase_eq_iff fun c hc => ?_
    have hmem : c = '0' ∨ c = 'x' ∨ c = '+' ∨ c ∈ digits := by
      rcases hsign with rfl | rfl
      · have hcases : c = '0' ∨ c = 'x' ∨ c ∈ digits := by simpa using hc
        tauto
      · simpa using hc
    rcases hmem with rfl | rfl | rfl | hmem
    · decide
    · decide
    · decide
    · obtain ⟨d, hd, rfl⟩ := hdigits.exists_digit hmem
      exact hdigit d hd
  rw [Quantity.spells_iff]
  refine exists_congr fun sign => exists_congr fun digits => and_congr_right fun hsign => ?_
  exact and_congr_left fun hdigits => (hlower hsign hdigits).symm

theorem lowercase_eq_text_iff {s : String} {t : BlockTag} :
    Text.lowercase s = t.text ↔ lowered s = t.text.toList := by
  have hascii : ∀ c ∈ t.text.toList, c.toNat < 128 ∧ c ≠ 'k' := by
    cases t <;> simp [BlockTag.text]
  rw [← Text.lowercase_eq_iff hascii, String.toList_inj]

/-! ### Values -/

theorem ofJson?_of_namesHash {h : Hash32} {w : Json} (hw : NamesHash Hash32.marks h w) :
    ofJson? w = some (.hash h) := by
  cases hw with
  | text hs hdigits =>
    rw [ofJson?]
    exact ofText?_eq_hash_iff.2 ⟨_, hs, hdigits⟩
  | member hhash hmark hs hdigits =>
    rw [ofJson?, hhash]
    simp only [Hash32.ofText?_of_written hmark hs hdigits, Option.map_some]

/-- A number is read as it is, if it is not out of range. -/
theorem ofJson?_of_namesNumber {n : Nat} {w : Json} (hw : NamesNumber n w) :
    ofJson? w = (below64? n).map .number := by
  cases hw with
  | whole => rw [ofJson?]
  | text hhash hsign hs hdigits =>
    rw [ofJson?]
    exact ofText?_of_spells hhash (spells_iff_lowercase.2 ⟨_, _, hsign, hs, hdigits⟩)

theorem ofJson?_of_names {r : BlockRef} {w : Json} (hw : Names r w) : ofJson? w = some r := by
  cases r with
  | hash h => exact ofJson?_of_namesHash hw
  | number n =>
    obtain ⟨hlt, hw⟩ := hw
    rw [ofJson?_of_namesNumber hw, below64?_eq_some_iff.2 ⟨rfl, hlt⟩, Option.map_some]
  | tag t =>
    obtain ⟨s, rfl, hs⟩ := hw
    rw [ofJson?]
    exact ofText?_eq_tag_iff.2 (lowercase_eq_text_iff.1 hs)

theorem names_of_ofText? {s : String} {r : BlockRef} (h : ofText? s = some r) :
    Names r (.string s) := by
  cases r with
  | hash k =>
    obtain ⟨digits, hs, hdigits⟩ := ofText?_eq_hash_iff.1 h
    exact .text hs hdigits
  | number n =>
    obtain ⟨hlooks, hspells, hlt⟩ := ofText?_eq_number_iff.1 h
    obtain ⟨sign, digits, hsign, hs, hdigits⟩ := spells_iff_lowercase.1 hspells
    have hhash : ¬HashLike s := by simp [← looksLikeHash_iff, hlooks]
    exact ⟨hlt, .text hhash hsign hs hdigits⟩
  | tag t => exact ⟨s, rfl, lowercase_eq_text_iff.2 (ofText?_eq_tag_iff.1 h)⟩

/-- An object at the end of a chain is read only as its own hash. -/
theorem names_of_ofJson?_object {members : List (String × Json)} {r : BlockRef}
    (hend : IsEnd (.object members)) (h : ofJson? (.object members) = some r) :
    Names r (.object members) := by
  rw [ofJson?] at h
  split at h
  next s hhash =>
    obtain ⟨k, hread, rfl⟩ := Option.map_eq_some_iff.1 h
    obtain ⟨mark, hmark, digits, hs, hdigits⟩ := Hash32.ofText?_eq_some_iff.1 hread
    exact .member hhash hmark hs hdigits
  next => cases h
  next hhash =>
    rw [ofNumberMember?_eq] at h
    obtain ⟨v, hnumber, -⟩ := Option.bind_eq_some_iff.1 h
    exact absurd ⟨hhash, hnumber⟩ (hend members v rfl)

theorem names_of_ofJson? {w : Json} {r : BlockRef} (hend : IsEnd w) (h : ofJson? w = some r) :
    Names r w := by
  cases w with
  | string s =>
    rw [ofJson?] at h
    exact names_of_ofText? h
  | object members => exact names_of_ofJson?_object hend h
  | number k =>
    cases k with
    | whole n =>
      rw [ofJson?] at h
      obtain ⟨m, hm, rfl⟩ := Option.map_eq_some_iff.1 h
      obtain ⟨rfl, hlt⟩ := below64?_eq_some_iff.1 hm
      exact ⟨hlt, .whole⟩
    | negative n => simp [ofJson?] at h
    | double x => simp [ofJson?] at h
  | null => simp [ofJson?] at h
  | bool b => simp [ofJson?] at h
  | array items => simp [ofJson?] at h

/-! ## All values -/

theorem ofJson?_eq_some_iff {v : Json} {r : BlockRef} :
    ofJson? v = some r ↔ ∃ w, LeadsTo v w ∧ Names r w := by
  constructor
  · intro h
    obtain ⟨w, hleads, hend⟩ := exists_end v
    exact ⟨w, hleads, names_of_ofJson? hend (hleads.ofJson?_eq ▸ h)⟩
  · rintro ⟨w, hleads, hw⟩
    rw [hleads.ofJson?_eq]
    exact ofJson?_of_names hw

/-- An object with a `blockHash` that is no hash names nothing, whatever else it holds. -/
theorem ofJson?_of_unusable {members : List (String × Json)} {hash : Json}
    (hhash : Dict.get? "blockHash" members = some hash)
    (hnot : ∀ h, ¬NamesHash Hash32.marks h (.object members)) :
    ofJson? (.object members) = none := by
  rw [Option.eq_none_iff_forall_ne_some]
  intro r hread
  have hend : IsEnd (.object members) := by
    intro _ v heq hmember
    cases heq
    rw [Member, hhash] at hmember
    cases hmember.1
  have hnames : Names r (.object members) := names_of_ofJson? hend hread
  cases r with
  | hash h => exact hnot h hnames
  | number n => cases hnames.2
  | tag t => obtain ⟨s, hs, -⟩ := hnames; cases hs

/-- A value is read as a hash, a number or a tag exactly if it leads to what names this hash, number
or tag, and as nothing if it leads to none of these. A number that does not fit into 64 bits is no
reference, and it is not cut down. An object whose `blockHash` is no hash is no reference either, even
if it has a `blockNumber`. Hashes and numbers, and nothing else, mean the same block for ever. -/
theorem references_read_exactly (v : Json) :
    (∀ h, ofJson? v = some (.hash h) ↔ ∃ w, LeadsTo v w ∧ NamesHash Hash32.marks h w) ∧
    (∀ n, ofJson? v = some (.number n) ↔ n < 1 <<< 64 ∧ ∃ w, LeadsTo v w ∧ NamesNumber n w) ∧
    (∀ t, ofJson? v = some (.tag t) ↔
      ∃ s, LeadsTo v (.string s) ∧ Text.lowercase s = t.text) ∧
    (ofJson? v = none ↔ ∀ r w, LeadsTo v w → ¬Names r w) ∧
    (∀ n w, LeadsTo v w → NamesNumber n w → 1 <<< 64 ≤ n → ofJson? v = none) ∧
    (∀ members hash, LeadsTo v (.object members) →
      Dict.get? "blockHash" members = some hash →
      (∀ h, ¬NamesHash Hash32.marks h (.object members)) → ofJson? v = none) ∧
    ∀ r : BlockRef, r.isConcrete = true ↔ (∃ h, r = .hash h) ∨ ∃ n, r = .number n := by
  refine ⟨fun h => ofJson?_eq_some_iff, ?number, ?tag, ?nothing, ?range, ?unusable, ?concrete⟩
  case number =>
    intro n
    rw [ofJson?_eq_some_iff]
    constructor
    · rintro ⟨w, hleads, hlt, hw⟩
      exact ⟨hlt, w, hleads, hw⟩
    · rintro ⟨hlt, w, hleads, hw⟩
      exact ⟨w, hleads, hlt, hw⟩
  case tag =>
    intro t
    rw [ofJson?_eq_some_iff]
    constructor
    · rintro ⟨w, hleads, s, rfl, hs⟩
      exact ⟨s, hleads, hs⟩
    · rintro ⟨s, hleads, hs⟩
      exact ⟨.string s, hleads, s, rfl, hs⟩
  case nothing =>
    rw [Option.eq_none_iff_forall_ne_some]
    refine forall_congr' fun r => ?_
    rw [ne_eq, ofJson?_eq_some_iff]
    simp only [not_exists, not_and]
  case range =>
    intro n w hleads hw hout
    have hnone : below64? n = none := if_neg (Nat.not_lt.2 hout)
    rw [hleads.ofJson?_eq, ofJson?_of_namesNumber hw, hnone, Option.map_none]
  case unusable =>
    intro members hash hleads hhash hnot
    rw [hleads.ofJson?_eq, ofJson?_of_unusable hhash hnot]
  case concrete =>
    intro r
    cases r <;> simp [isConcrete]

/-- The number 100 in an object in an object. -/
def nested : Json :=
  .object [("blockNumber", .object [("blockNumber", .string "0X+0064")])]

theorem references_read_exactly_of_nested :
    LeadsTo nested (.string "0X+0064") ∧ NamesNumber 100 (.string "0X+0064") ∧
      ofJson? nested = some (.number 100) := by
  have hleads : LeadsTo nested (.string "0X+0064") :=
    .member ⟨rfl, rfl⟩ (.member ⟨rfl, rfl⟩ (.refl _))
  have hlower : (Text.lowercase "0X+0064").toList = '0' :: 'x' :: (['+'] ++ "0064".toList) := by
    decide
  have hdigits : Hexadecimal "0064".toList 100 :=
    ⟨[0, 0, 6, 4], by decide, by decide, by decide, by decide⟩
  have hnames : NamesNumber 100 (.string "0X+0064") :=
    .text (fun hhash => absurd hhash.1 (by decide)) (.inr rfl) hlower hdigits
  obtain ⟨-, hnumber, -⟩ := references_read_exactly nested
  exact ⟨hleads, hnames, (hnumber 100).2 ⟨by decide, _, hleads, hnames⟩⟩

/-- A hash with the mark in upper case. -/
def upperMarked : Json :=
  .object [("blockHash",
    .string "0Xabababababababababababababababababababababababababababababababab")]

/-- It is read, although its digits stand neither alone nor after `0x`. -/
theorem hash_of_upperMarked :
    ∃ h, ofJson? upperMarked = some (.hash h) ∧
      ¬∃ w, LeadsTo upperMarked w ∧ NamesHash [[], ['0', 'x']] h w := by
  refine ⟨.ofNat 0xabababababababababababababababababababababababababababababababab, rfl, ?_⟩
  rintro ⟨w, hleads, hnames⟩
  cases hleads with
  | refl =>
    cases hnames with
    | @member _ _ mark digits hhash hmark hs hdigits =>
      obtain rfl := Json.string.inj (Option.some.inj hhash)
      have hmarks : mark = [] ∨ mark = ['0', 'x'] := by simpa using hmark
      rcases hmarks with rfl | rfl
      · have hlength := congrArg List.length hs
        rw [List.nil_append, hdigits.1] at hlength
        exact absurd hlength (by decide)
      · have hsecond : some 'X' = some 'x' := congrArg (·[1]?) hs
        exact absurd hsecond (by decide)
  | member hmember => cases hmember.1

end EthRpc.BlockRef
