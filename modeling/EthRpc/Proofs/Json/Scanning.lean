-- SUMMARY: The compact text of a JSON value is cut into the tokens that it was put together from.
import Mathlib.Data.List.TakeWhile
import EthRpc.Json.Token
import EthRpc.Proofs.Json.Printer

/-!
# Scanning compact texts

Strings and brackets show where they end. A number does not: it goes on until
something follows that is no part of it, which in a compact text is a comma, a
closing bracket or the end.
-/

namespace EthRpc.Json

/-! ## The tokens of a value -/

/-- The number that is spelled by all of a text. -/
def Number.read? (cs : List Char) : Option Number :=
  match Token.numeral? cs with
  | some (m, []) => m.number?
  | _ => none

/-- A number in range; a double is one whose text is read back without loss. -/
def Number.Faithful : Number → Prop
  | .whole n => n < 1 <<< 64
  | .negative n => 0 < n ∧ n ≤ 1 <<< 63
  | .double x => read? x.text = some (.double x)

instance (n : Number) : Decidable n.Faithful := by
  cases n <;> unfold Number.Faithful <;> infer_instance

/-- The numeral that a number is written as. -/
def Number.numeral (n : Number) : Numeral :=
  match Token.numeral? n.text with
  | some (m, _) => m
  | none => ⟨false, ['0'], none, none⟩

/-- All numbers in a value, however deep, are faithful. -/
inductive Faithful : Json → Prop where
  | null : Faithful .null
  | bool (b : Bool) : Faithful (.bool b)
  | number {n : Number} (h : n.Faithful) : Faithful (.number n)
  | string (s : String) : Faithful (.string s)
  | array {items : List Json} (h : ∀ v ∈ items, Faithful v) : Faithful (.array items)
  | object {members : List (String × Json)} (h : ∀ m ∈ members, Faithful m.2) :
    Faithful (.object members)

mutual

def tokens : Json → List Token
  | .null => [.null]
  | .bool b => [.bool b]
  | .number n => [.numeral n.numeral]
  | .string s => [.string (some s.toList)]
  | .array [] => [.openArray, .closeArray]
  | .array (v :: rest) => .openArray :: (tokens v ++ itemTokens rest)
  | .object [] => [.openObject, .closeObject]
  | .object ((name, v) :: rest) =>
    .openObject :: .string (some name.toList) :: .colon :: (tokens v ++ memberTokens rest)

/-- The tokens of the items after the first, and the closing bracket. -/
def itemTokens : List Json → List Token
  | [] => [.closeArray]
  | v :: rest => .comma :: (tokens v ++ itemTokens rest)

/-- The tokens of the members after the first, and the closing bracket. -/
def memberTokens : List (String × Json) → List Token
  | [] => [.closeObject]
  | (name, v) :: rest =>
    .comma :: .string (some name.toList) :: .colon :: (tokens v ++ memberTokens rest)

end

namespace Token

/-! ## Numerals -/

/-- What may follow a value in a compact text: nothing, a comma or a closing bracket. -/
def Closes (rest : List Char) : Prop := ∀ c ∈ rest.head?, c = ',' ∨ c = ']' ∨ c = '\x7d'

theorem Closes.cons {c : Char} (h : c = ',' ∨ c = ']' ∨ c = '\x7d') (rest : List Char) :
    Closes (c :: rest) := by
  intro d hd
  cases hd
  exact h

theorem closes_nil : Closes [] := nofun

theorem Closes.head {c : Char} {rest : List Char} (h : Closes (c :: rest)) :
    c.isDigit = false ∧ c ≠ '.' ∧ c ≠ 'e' ∧ c ≠ 'E' := by
  rcases h c rfl with rfl | rfl | rfl <;> decide

theorem spanDigits_append {rest : List Char} (h : Closes rest) (cs : List Char) :
    spanDigits (cs ++ rest) = ((spanDigits cs).1, (spanDigits cs).2 ++ rest) := by
  induction cs with
  | nil =>
    cases rest with
    | nil => rfl
    | cons c rest => simp [spanDigits, h.head.1]
  | cons c cs ih =>
    simp only [spanDigits, Prod.mk.injEq] at ih ⊢
    by_cases hc : c.isDigit
    · simp [hc, ih]
    · simp [hc]

theorem fraction?_append {rest : List Char} (h : Closes rest) (cs : List Char) :
    numeral?.fraction? (cs ++ rest) =
      (numeral?.fraction? cs).map fun p => (p.1, p.2 ++ rest) := by
  cases cs with
  | nil =>
    cases rest with
    | nil => rfl
    | cons c rest =>
      obtain ⟨-, hpoint, -, -⟩ := h.head
      simp [numeral?.fraction?, hpoint]
  | cons c cs =>
    by_cases hc : c = '.'
    · subst hc
      simp only [List.cons_append, numeral?.fraction?, spanDigits_append h]
      split <;> rfl
    · simp [numeral?.fraction?, hc]

/-- An exponent after its mark and its sign. -/
def power? (down : Bool) (cs : List Char) : Option (Option (Bool × List Char) × List Char) :=
  if (spanDigits cs).1 = [] then none
  else some (some (down, (spanDigits cs).1), (spanDigits cs).2)

/-- A numeral after its sign. -/
def magnitude? (negative : Bool) (cs : List Char) : Option (Numeral × List Char) :=
  if (spanDigits cs).1 = [] ∨
      (spanDigits cs).1.head? = some '0' ∧ (spanDigits cs).1.length ≠ 1 then none
  else
    match numeral?.fraction? (spanDigits cs).2 with
    | none => none
    | some (fraction, es) =>
      match numeral?.exponent? es with
      | none => none
      | some (exponent, rest) => some (⟨negative, (spanDigits cs).1, fraction, exponent⟩, rest)

theorem exponent?_eq {c d : Char} (hc : c = 'e' ∨ c = 'E') (cs : List Char) :
    numeral?.exponent? (c :: d :: cs) =
      if d = '+' then power? false cs else if d = '-' then power? true cs
      else power? false (d :: cs) := by
  simp only [numeral?.exponent?, if_pos hc]
  by_cases hplus : d = '+'
  · subst hplus
    rfl
  · by_cases hminus : d = '-'
    · subst hminus
      rfl
    · simp [hplus, hminus, power?]

theorem numeral?_eq {d : Char} (cs : List Char) :
    numeral? (d :: cs) = if d = '-' then magnitude? true cs else magnitude? false (d :: cs) := by
  by_cases hminus : d = '-'
  · subst hminus
    rfl
  · rw [if_neg hminus]
    simp only [numeral?]
    split
    · simp_all
    · rfl

theorem power?_append {rest : List Char} (h : Closes rest) (down : Bool) (cs : List Char) :
    power? down (cs ++ rest) = (power? down cs).map fun p => (p.1, p.2 ++ rest) := by
  simp only [power?, spanDigits_append h]
  split <;> rfl

theorem exponent?_append {rest : List Char} (h : Closes rest) (cs : List Char) :
    numeral?.exponent? (cs ++ rest) =
      (numeral?.exponent? cs).map fun p => (p.1, p.2 ++ rest) := by
  cases cs with
  | nil =>
    cases rest with
    | nil => rfl
    | cons c rest =>
      obtain ⟨-, -, he, hE⟩ := h.head
      simp [numeral?.exponent?, he, hE]
  | cons c cs =>
    by_cases hc : c = 'e' ∨ c = 'E'
    · cases cs with
      | nil =>
        cases rest with
        | nil => simp
        | cons d rest =>
          rcases h d rfl with rfl | rfl | rfl <;> simp [numeral?.exponent?, hc, spanDigits]
      | cons d cs =>
        have hdigits := power?_append h false (d :: cs)
        simp only [List.cons_append, exponent?_eq hc] at hdigits ⊢
        split
        · exact power?_append h false cs
        · split
          · exact power?_append h true cs
          · exact hdigits
    · simp [numeral?.exponent?, hc]

theorem magnitude?_append {rest : List Char} (h : Closes rest) (negative : Bool) (cs : List Char) :
    magnitude? negative (cs ++ rest) =
      (magnitude? negative cs).map fun p => (p.1, p.2 ++ rest) := by
  simp only [magnitude?, spanDigits_append h, fraction?_append h]
  split
  · rfl
  · cases numeral?.fraction? (spanDigits cs).2 with
    | none => rfl
    | some p =>
      simp only [Option.map_some, exponent?_append h]
      cases numeral?.exponent? p.2 <;> rfl

/-- A numeral ends where the text of its number ends. -/
theorem numeral?_append {rest : List Char} (h : Closes rest) (c : Char) (cs : List Char) :
    numeral? (c :: cs ++ rest) = (numeral? (c :: cs)).map fun p => (p.1, p.2 ++ rest) := by
  have hdigits := magnitude?_append h false (c :: cs)
  simp only [List.cons_append, numeral?_eq] at hdigits ⊢
  split
  · exact magnitude?_append h true cs
  · exact hdigits

/-! ### Whole numbers -/

theorem head?_toDigits_ne {n : Nat} (hn : 0 < n) : (Nat.toDigits 10 n).head? ≠ some '0' := by
  induction n using Nat.strongRecOn with
  | ind n ih =>
    by_cases hlt : n < 10
    · rw [Nat.toDigits_of_lt_base hlt]
      have hdigit : ∀ d < 10, 0 < d → Nat.digitChar d ≠ '0' := by decide
      simpa using hdigit n hlt hn
    · have hdiv : 0 < n / 10 := by omega
      have hne := ih (n / 10) (by omega) hdiv
      rw [Nat.toDigits_of_base_le (by decide) (by omega)]
      cases hds : Nat.toDigits 10 (n / 10) with
      | nil => exact absurd hds Nat.toDigits_ne_nil
      | cons d ds =>
        rw [hds] at hne
        exact hne

theorem spanDigits_toDigits (n : Nat) : spanDigits (Nat.toDigits 10 n) = (Nat.toDigits 10 n, []) := by
  have hdigit : ∀ c ∈ Nat.toDigits 10 n, c.isDigit := fun c hc =>
    Nat.isDigit_of_mem_toDigits (by decide) (by decide) hc
  rw [spanDigits, Prod.mk.injEq]
  exact ⟨List.takeWhile_eq_self_iff.2 hdigit, List.dropWhile_eq_nil_iff.2 hdigit⟩

theorem magnitude?_toDigits (negative : Bool) (n : Nat) :
    magnitude? negative (Nat.toDigits 10 n) = some (⟨negative, Nat.toDigits 10 n, none, none⟩, []) := by
  have hzero : (Nat.toDigits 10 n).head? = some '0' → (Nat.toDigits 10 n).length = 1 := by
    intro hhead
    cases n with
    | zero => rfl
    | succ n => exact absurd hhead (head?_toDigits_ne (Nat.succ_pos n))
  have hne : Nat.toDigits 10 n ≠ [] := Nat.toDigits_ne_nil
  simp [magnitude?, spanDigits_toDigits, hne, numeral?.fraction?, numeral?.exponent?]
  exact hzero

theorem numeral?_toDigits (n : Nat) :
    numeral? (Nat.toDigits 10 n) = some (⟨false, Nat.toDigits 10 n, none, none⟩, []) := by
  have hmag := magnitude?_toDigits false n
  cases hds : Nat.toDigits 10 n with
  | nil => exact absurd hds Nat.toDigits_ne_nil
  | cons d ds =>
    have hminus : d ≠ '-' := by
      rintro rfl
      exact not_mem_toDigits (n := n) (c := '-') rfl (by simp [hds])
    rw [hds] at hmag
    rw [numeral?_eq, if_neg hminus, hmag]

end Token

/-- A faithful number is read back from its text. -/
theorem Number.read?_text {n : Number} (h : n.Faithful) : read? n.text = some n := by
  cases n with
  | whole n =>
    have hlt : n < 18446744073709551616 := h
    simp [read?, text, Token.numeral?_toDigits, Numeral.number?, readDigits?_toDigits, hlt]
  | negative n =>
    have hpos : 0 < n := h.1
    have hle : n ≤ 9223372036854775808 := h.2
    have hlt : ¬18446744073709551616 ≤ n := by omega
    simp [read?, text, Token.numeral?_eq, Token.magnitude?_toDigits, Numeral.number?,
      readDigits?_toDigits, hlt, hle, Nat.pos_iff_ne_zero.1 hpos]
  | double x => exact h

theorem Number.numeral_spec {n : Number} (h : n.Faithful) :
    Token.numeral? n.text = some (n.numeral, []) ∧ n.numeral.number? = some n := by
  have hread := Number.read?_text h
  simp only [read?] at hread
  split at hread
  · next m hm => exact ⟨by simp [numeral, hm], by simpa [numeral, hm] using hread⟩
  · cases hread

namespace Token

/-! ## Strings -/

theorem content?_escapeChar (acc : List Char) (c : Char) (rest : List Char) :
    content? (some acc) none (escapeChar c ++ rest) = content? (some (c :: acc)) none rest := by
  unfold escapeChar
  split
  case h_8 _ hquote hslash _ _ _ _ _ =>
    split
    case isTrue hcontrol =>
      have hlt : c.toNat < 32 := hcontrol
      have hhigh := digitIn?_digitChar (b := 16) (d := c.toNat / 16) (by omega) (by decide)
      have hlow := digitIn?_digitChar (b := 16) (d := c.toNat % 16) (by omega) (by decide)
      have hzero : digitIn? 16 '0' = some 0 := by rfl
      have hunit : unit? '0' '0' (Nat.digitChar (c.toNat / 16)) (Nat.digitChar (c.toNat % 16)) =
          some c.toNat := by
        simp [unit?, readDigits?, hhigh, hlow, hzero, Nat.div_add_mod]
      have hsurrogate : isHigh c.toNat = false ∧ isLow c.toNat = false := by
        simp [isHigh, isLow]
        omega
      simp [content?, hunit, hsurrogate]
    case isFalse hprinted =>
      rw [List.singleton_append, content?]
      all_goals simp_all [content?.alone]
  all_goals simp [content?, escape?, content?.alone]

theorem content?_escapes (s acc rest : List Char) :
    content? (some acc) none (s.flatMap escapeChar ++ '"' :: rest) =
      some (some (acc.reverse ++ s), rest) := by
  induction s generalizing acc with
  | nil => simp [content?, content?.finish, content?.alone]
  | cons c s ih =>
    rw [List.flatMap_cons, List.append_assoc, content?_escapeChar, ih]
    simp

/-! ## One token after the other -/

theorem next?_quote (s rest : List Char) :
    next? (quote s ++ rest) = some (.string (some s), rest) := by
  simp [quote, next?, content?_escapes]

theorem next?_of_isNumeric {c : Char} (h : isNumeric c) (cs : List Char) :
    next? (c :: cs) = (numeral? (c :: cs)).map fun p => (.numeral p.1, p.2) := by
  unfold next?
  split
  case h_11 => rfl
  all_goals
    rename_i heq
    obtain ⟨rfl, -⟩ := List.cons.inj heq
    cases h

theorem isBlank_of_isNumeric {c : Char} (h : isNumeric c) : isBlank c = false := by
  by_contra hblank
  simp only [Bool.not_eq_false, isBlank, decide_eq_true_eq] at hblank
  rcases hblank with rfl | rfl | rfl | rfl <;> cases h

/-- A text without blanks is cut into tokens, each of which takes at least one character. -/
inductive Scans : List Char → List Token → Prop where
  | nil : Scans [] []
  | cons {c : Char} {cs rest : List Char} {t : Token} {ts : List Token}
    (hblank : isBlank c = false) (hnext : next? (c :: cs) = some (t, rest))
    (hlength : rest.length ≤ cs.length) (h : Scans rest ts) : Scans (c :: cs) (t :: ts)

theorem Scans.scanFrom {cs : List Char} {ts : List Token} (h : Scans cs ts) {fuel : Nat}
    (hfuel : cs.length ≤ fuel) : scanFrom fuel cs = some ts := by
  induction h generalizing fuel with
  | nil => cases fuel <;> rfl
  | cons hblank hnext hlength _ ih =>
    cases fuel with
    | zero => simp at hfuel
    | succ fuel =>
      have hrest := ih (Nat.le_trans hlength (Nat.le_of_succ_le_succ hfuel))
      simp [Token.scanFrom, hblank, hnext, hrest]

theorem Scans.scan {cs : List Char} {ts : List Token} (h : Scans cs ts) : scan cs = some ts :=
  h.scanFrom (Nat.le_refl _)

namespace Scans

/-- A token that is one character. -/
theorem mark {c : Char} {t : Token} {rest : List Char} {ts : List Token}
    (hblank : isBlank c = false) (hnext : next? (c :: rest) = some (t, rest))
    (h : Scans rest ts) : Scans (c :: rest) (t :: ts) :=
  cons hblank hnext (Nat.le_refl _) h

theorem quote {rest : List Char} {ts : List Token} (s : List Char) (h : Scans rest ts) :
    Scans (Json.quote s ++ rest) (.string (some s) :: ts) :=
  cons rfl (next?_quote s rest) (by simp; omega) h

theorem number {n : Number} (hn : n.Faithful) {rest : List Char} {ts : List Token}
    (hrest : Closes rest) (h : Scans rest ts) : Scans (n.text ++ rest) (.numeral n.numeral :: ts) := by
  obtain ⟨hnumeral, -⟩ := Number.numeral_spec hn
  obtain ⟨c, cs, htext, hc⟩ := n.exists_head
  rw [htext] at hnumeral ⊢
  refine cons (isBlank_of_isNumeric hc) ?_ (by simp) h
  have happend := numeral?_append hrest c cs
  rw [List.cons_append, hnumeral] at happend
  change next? (c :: (cs ++ rest)) = _
  rw [next?_of_isNumeric hc, happend]
  rfl

end Scans

theorem closes_compactItems (items : List Json) (rest : List Char) :
    Closes (compactItems items ++ rest) := by
  cases items with
  | nil => exact Closes.cons (.inr (.inl rfl)) _
  | cons v items => exact Closes.cons (.inl rfl) _

theorem closes_compactMembers (members : List (String × Json)) (rest : List Char) :
    Closes (compactMembers members ++ rest) := by
  cases members with
  | nil => exact Closes.cons (.inr (.inr rfl)) _
  | cons m members => exact Closes.cons (.inl rfl) _

mutual

/-- The text of a value is cut into the tokens of the value, whatever closes the text. -/
theorem scans_compactChars : (v : Json) → v.Faithful → {rest : List Char} → {ts : List Token} →
    Closes rest → Scans rest ts → Scans (compactChars v ++ rest) (v.tokens ++ ts)
  | .null, _, rest, ts, _, h => .cons rfl rfl (Nat.le_add_right _ 3) h
  | .bool true, _, rest, ts, _, h => .cons rfl rfl (Nat.le_add_right _ 3) h
  | .bool false, _, rest, ts, _, h => .cons rfl rfl (Nat.le_add_right _ 4) h
  | .number n, hv, rest, ts, hrest, h => by
    cases hv with
    | number hn =>
      rw [compactChars, tokens]
      exact .number hn hrest h
  | .string s, _, rest, ts, _, h => by
    rw [compactChars, tokens]
    exact .quote s.toList h
  | .array [], _, rest, ts, _, h => .mark rfl rfl (.mark rfl rfl h)
  | .array (v :: items), hv, rest, ts, _, h => by
    cases hv with
    | array hitems =>
      simp only [compactChars, tokens, List.cons_append, List.append_assoc]
      refine .mark rfl rfl (scans_compactChars v (hitems v List.mem_cons_self)
        (closes_compactItems items rest) ?_)
      exact scans_compactItems items (fun w hw => hitems w (List.mem_cons_of_mem _ hw)) h
  | .object [], _, rest, ts, _, h => .mark rfl rfl (.mark rfl rfl h)
  | .object ((name, v) :: members), hv, rest, ts, _, h => by
    cases hv with
    | object hmembers =>
      simp only [compactChars, tokens, List.cons_append, List.append_assoc]
      refine .mark rfl rfl (.quote name.toList (.mark rfl rfl (scans_compactChars v
        (hmembers (name, v) List.mem_cons_self) (closes_compactMembers members rest) ?_)))
      exact scans_compactMembers members (fun w hw => hmembers w (List.mem_cons_of_mem _ hw)) h

theorem scans_compactItems : (items : List Json) → (∀ v ∈ items, v.Faithful) →
    {rest : List Char} → {ts : List Token} → Scans rest ts →
      Scans (compactItems items ++ rest) (itemTokens items ++ ts)
  | [], _, rest, ts, h => .mark rfl rfl h
  | v :: items, hitems, rest, ts, h => by
    simp only [compactItems, itemTokens, List.cons_append, List.append_assoc]
    refine .mark rfl rfl (scans_compactChars v (hitems v List.mem_cons_self)
      (closes_compactItems items rest) ?_)
    exact scans_compactItems items (fun w hw => hitems w (List.mem_cons_of_mem _ hw)) h

theorem scans_compactMembers : (members : List (String × Json)) → (∀ m ∈ members, m.2.Faithful) →
    {rest : List Char} → {ts : List Token} → Scans rest ts →
      Scans (compactMembers members ++ rest) (memberTokens members ++ ts)
  | [], _, rest, ts, h => .mark rfl rfl h
  | (name, v) :: members, hmembers, rest, ts, h => by
    simp only [compactMembers, memberTokens, List.cons_append, List.append_assoc]
    refine .mark rfl rfl (.quote name.toList (.mark rfl rfl (scans_compactChars v
      (hmembers (name, v) List.mem_cons_self) (closes_compactMembers members rest) ?_)))
    exact scans_compactMembers members (fun w hw => hmembers w (List.mem_cons_of_mem _ hw)) h

end

theorem scan_compact {v : Json} (h : v.Faithful) : scan v.compact.toList = some v.tokens := by
  have hscans := scans_compactChars v h closes_nil .nil
  simp only [List.append_nil] at hscans
  rw [compact, String.toList_ofList]
  exact hscans.scan

end Token

end EthRpc.Json
