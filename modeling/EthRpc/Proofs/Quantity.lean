-- SUMMARY: A number has one text for requests, and whoever reads a quantity takes it for the same number.
import EthRpc.Block.Head
import EthRpc.Proofs.Block.Ref
import EthRpc.Proofs.Hexadecimal
import EthRpc.Stage.Inspector

/-!
# One format and its readers

Quantities are read from parameters, from responses and from polled blocks. The
reader of polled blocks takes more texts than the one of responses, but no sign.
Where both take a text, they agree.
-/

namespace EthRpc

/-! ## The strict and the loose reader -/

namespace Quantity

theorem loose?_of_hex {s : String} {rest : List Char} (hs : s.toList = '0' :: 'x' :: rest) :
    loose? s = (readDigits? 16 0 (rest.filter (· ≠ '_'))).bind below64? := by
  simp [loose?, base, hs]

theorem loose?_of_digits {s : String} {ds : List Char} {n : Nat}
    (hs : s.toList = '0' :: 'x' :: ds) (hread : readDigits? 16 0 ds = some n) :
    loose? s = below64? n := by
  have hdigits : ∀ c ∈ ds, decide (c ≠ '_') = true := by
    intro c hc
    have hnot : '_' ∉ ds := not_mem_of_readDigits? hread rfl
    exact decide_eq_true fun heq => hnot (heq ▸ hc)
  rw [loose?_of_hex hs, List.filter_eq_self.2 hdigits, hread, Option.bind_some]

theorem loose?_text {n : Nat} (hn : n < 1 <<< 64) : loose? (text n) = some n := by
  have hs : (text n).toList = '0' :: 'x' :: Nat.toDigits 16 n := String.toList_ofList
  rw [loose?_of_digits hs (readDigits?_toDigits (by decide) (by decide) n)]
  exact below64?_eq_some_iff.2 ⟨rfl, hn⟩

/-- The readers take a text for the same number. The loose one does not take a plus sign. -/
theorem eq_of_loose?_of_strict? {s : String} {m n : Nat} (hloose : loose? s = some m)
    (hstrict : strict? s = some n) : m = n := by
  unfold strict? at hstrict
  split at hstrict
  next rest hs =>
    obtain ⟨sign, ds, hsign, rfl, -, hdigits⟩ := exists_sign_of_hex? hstrict
    obtain ⟨hread, hlt⟩ := digits_eq_some_iff.1 hdigits
    rcases hsign with rfl | rfl
    · rw [loose?_of_digits hs hread, below64?_eq_some_iff.2 ⟨rfl, hlt⟩] at hloose
      exact (Option.some.inj hloose).symm
    · rw [loose?_of_hex hs] at hloose
      cases hloose
  next => cases hstrict

end Quantity

/-! ## Members of blocks -/

namespace Json.Source

variable {members : List (String × Json)}

theorem named?_ofMembers (name : String) (members : List (String × Json)) :
    named? name (ofMembers members) =
      (members.filter (·.1 == name)).map fun member => ofJson member.2 := by
  induction members with
  | nil => rfl
  | cons member rest ih =>
    by_cases hname : member.1 = name
    · simpa [named?, ofMembers, hname] using ih
    · simpa [named?, ofMembers, hname] using ih

theorem head?_named? (name : String) (members : List (String × Json)) :
    (named? name (ofMembers members)).head? = (Dict.get? name members).map ofJson := by
  rw [named?_ofMembers]
  induction members with
  | nil => rfl
  | cons member rest ih =>
    obtain ⟨k, v⟩ := member
    by_cases hname : k = name
    · simp [Dict.get?, hname]
    · simpa [Dict.get?, hname, Ne.symm hname] using ih

/-- If no name stands twice, a member is the only one of its name. -/
theorem named?_eq_singleton (h : (members.map (·.1)).Nodup) {name : String} {v : Json}
    (hget : Dict.get? name members = some v) : named? name (ofMembers members) = [ofJson v] := by
  have hlength : (named? name (ofMembers members)).length ≤ 1 := by
    have hcount : (members.map (·.1)).count name ≤ 1 := List.nodup_iff_count.1 h name
    rw [named?_ofMembers, List.length_map, ← List.countP_eq_length_filter]
    rwa [List.count, List.countP_map] at hcount
  have hhead : (named? name (ofMembers members)).head? = some (ofJson v) := by
    rw [head?_named?, hget, Option.map_some]
  match hnamed : named? name (ofMembers members) with
  | [] => simp [hnamed] at hhead
  | [s] => simpa [hnamed] using hhead
  | _ :: _ :: _ => simp [hnamed] at hlength

theorem any_isNone_ofMembers (members : List (String × Json)) :
    (ofMembers members).any (·.1.isNone) = false := by
  induction members with
  | nil => rfl
  | cons member rest ih => simpa [ofMembers] using ih

/-- The first field of a record is the member of its name. -/
theorem get?_of_fields? {name : String} {names : List String} {s : Source}
    {rest : List (Option Source)}
    (h : (ofJson (.object members)).fields? (name :: names) = some (some s :: rest)) :
    (Dict.get? name members).map ofJson = some s := by
  simp only [ofJson, fields?, any_isNone_ofMembers, List.mapM_cons] at h
  obtain ⟨field, hfield, h⟩ := Option.bind_eq_some_iff.1 h
  obtain ⟨fields, -, hfields⟩ := Option.bind_eq_some_iff.1 h
  obtain ⟨rfl, -⟩ := List.cons.inj (Option.some.inj hfields)
  rw [← head?_named?]
  split at hfield
  next => cases hfield
  next hnamed =>
    obtain rfl := Option.some.inj (Option.some.inj hfield)
    rw [hnamed, List.head?_cons]
  next => cases hfield

end Json.Source

namespace BlockHead

open Json.Source

variable {members : List (String × Json)}

theorem ofBlock?_of_members (hnodup : (members.map (·.1)).Nodup) {s : String} {v : Json}
    {n : Nat} {hash : Hash32} (hnumber : Dict.get? "number" members = some (.string s))
    (hn : Quantity.loose? s = some n) (hv : Dict.get? "hash" members = some v)
    (hhash : Hash32.ofSource? (ofJson v) = some hash) :
    ofBlock? (.object members) = some ⟨n, hash⟩ := by
  have hfields : (ofJson (.object members)).fields? fieldNames =
      some [some (ofJson (.string s)), some (ofJson v)] := by
    simp [ofJson, fields?, fieldNames, any_isNone_ofMembers, named?_eq_singleton hnodup hnumber,
      named?_eq_singleton hnodup hv]
  rw [ofBlock?, hfields]
  simp [ofJson, looseNumber?, hn, hhash]

/-- The number of a head is read from the member `number`. -/
theorem loose?_of_ofBlock? {s : String} {h : BlockHead}
    (hnumber : Dict.get? "number" members = some (.string s))
    (hblock : ofBlock? (.object members) = some h) : Quantity.loose? s = some h.number := by
  unfold ofBlock? at hblock
  split at hblock
  next number hash hfields =>
    have hsource := get?_of_fields? hfields
    rw [hnumber, Option.map_some, ofJson] at hsource
    obtain rfl := Option.some.inj hsource
    obtain ⟨n, hn, hrest⟩ := Option.bind_eq_some_iff.1 hblock
    obtain ⟨k, -, heq⟩ := Option.bind_eq_some_iff.1 hrest
    cases heq
    exact hn
  next => cases hblock

end BlockHead

/-! ## All readers -/

theorem Json.blockNumber?_of_get? {members : List (String × Json)} {s : String}
    (h : Dict.get? "blockNumber" members = some (.string s) ∨
      Dict.get? "blockNumber" members = none ∧ Dict.get? "number" members = some (.string s)) :
    blockNumber? (.object members) = Quantity.strict? s := by
  rcases h with hnumber | ⟨hnone, hnumber⟩
  · simp [blockNumber?, get?, hnumber, string?]
  · simp [blockNumber?, get?, hnone, hnumber, string?]

/-- The text of a number is `0x` and as few digits as can denote it, all in lower case, and whoever
reads it finds the number: in a parameter, in a response that carries it as its `blockNumber`, or as
its `number` where there is no `blockNumber`, and in a block that carries it beside a hash and has no
name twice. A number in another text is the same for the readers of blocks and of responses if both
take it. -/
theorem numbers_read_alike :
    (∀ n, n < 1 <<< 64 →
      (∃ digits, BlockRef.numberParam n = .string (String.ofList ('0' :: 'x' :: digits)) ∧
        Hexadecimal digits n ∧ ∀ others, Hexadecimal others n → digits.length ≤ others.length) ∧
      BlockRef.ofJson? (BlockRef.numberParam n) = some (.number n) ∧
      (∀ members,
        (Dict.get? "blockNumber" members = some (BlockRef.numberParam n) ∨
          Dict.get? "blockNumber" members = none ∧
            Dict.get? "number" members = some (BlockRef.numberParam n)) →
        Json.blockNumber? (.object members) = some n) ∧
      ∀ members v hash, (members.map (·.1)).Nodup →
        Dict.get? "number" members = some (BlockRef.numberParam n) →
        Dict.get? "hash" members = some v → Hash32.ofSource? (.ofJson v) = some hash →
        BlockHead.ofBlock? (.object members) = some ⟨n, hash⟩) ∧
    BlockRef.numberParam 0 = .string "0x0" ∧
    ∀ members s h n, Dict.get? "number" members = some (.string s) →
      Dict.get? "blockNumber" members = none →
      BlockHead.ofBlock? (.object members) = some h →
      Json.blockNumber? (.object members) = some n → h.number = n := by
  refine ⟨fun n hn => ⟨?format, BlockRef.ofJson?_numberParam hn, ?response, ?block⟩, rfl, ?agree⟩
  case format =>
    exact ⟨_, rfl, .toDigits n, fun others hothers => hothers.length_toDigits_le⟩
  case response =>
    intro members hmember
    rw [Json.blockNumber?_of_get? hmember, Quantity.strict?_text hn]
  case block =>
    intro members v hash hnodup hnumber hv hhash
    exact BlockHead.ofBlock?_of_members hnodup hnumber (Quantity.loose?_text hn) hv hhash
  case agree =>
    intro members s h n hnumber hnone hblock hresponse
    rw [Json.blockNumber?_of_get? (.inr ⟨hnone, hnumber⟩)] at hresponse
    exact Quantity.eq_of_loose?_of_strict? (BlockHead.loose?_of_ofBlock? hnumber hblock) hresponse

/-- A block with a number that is given by this text. -/
def numbered (text : String) : List (String × Json) :=
  [("hash", .string (Hash32.ofNat 171).text), ("number", .string text)]

/-- The largest number is read from its own text, and a smaller one from another. -/
theorem numbers_read_alike_of_numbered :
    let greatest := 0xffffffffffffffff
    let block := Json.object (numbered (Quantity.text greatest))
    let other := Json.object (numbered "0x00fF")
    BlockHead.ofBlock? block = some ⟨greatest, .ofNat 171⟩ ∧
      block.blockNumber? = some greatest ∧
      ∃ h n, BlockHead.ofBlock? other = some h ∧ other.blockNumber? = some n ∧ h.number = n := by
  obtain ⟨hall, -, hagree⟩ := numbers_read_alike
  obtain ⟨-, -, hresponse, hblock⟩ := hall 0xffffffffffffffff (by decide)
  refine ⟨hblock _ _ _ (by decide) rfl rfl rfl, hresponse _ (.inr ⟨rfl, rfl⟩), ?_⟩
  refine ⟨⟨255, .ofNat 171⟩, 255, rfl, rfl, ?_⟩
  exact hagree (numbered "0x00fF") "0x00fF" _ _ rfl rfl rfl rfl

end EthRpc
