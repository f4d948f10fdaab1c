-- SUMMARY: The compact text of a JSON value determines the value.
import EthRpc.Json.Printer
import EthRpc.Proofs.Binary64.Decimal

/-!
# Compact texts

Values are told apart by the first character, numbers and strings by reading
them back, and arrays and objects item by item. No text of a value is the
beginning of another, given that what follows a value is no part of a number.
-/

namespace EthRpc.Json

/-! ## Numbers -/

/-- The characters that numbers are written in. -/
def isNumeric (c : Char) : Bool := c.isDigit || c == '-' || c == '.' || c == 'e'

theorem isNumeric_of_mem_toDigits {n : Nat} {c : Char} (h : c ∈ Nat.toDigits 10 n) :
    isNumeric c := by
  have hdigit : c.isDigit := Nat.isDigit_of_mem_toDigits (by decide) (by decide) h
  simp [isNumeric, hdigit]

theorem isNumeric_of_mem_text {n : Number} {c : Char} (h : c ∈ n.text) : isNumeric c := by
  cases n with
  | whole n => exact isNumeric_of_mem_toDigits h
  | negative n =>
    rcases List.mem_cons.1 h with rfl | hc
    · rfl
    · exact isNumeric_of_mem_toDigits hc
  | double x =>
    rcases Binary64.mem_text h with hdigit | rfl | rfl | rfl
    · simp [isNumeric, hdigit]
    · rfl
    · rfl
    · rfl

theorem Number.text_ne_nil (n : Number) : n.text ≠ [] := by
  cases n with
  | whole n => exact Nat.toDigits_ne_nil
  | negative n => exact List.cons_ne_nil _ _
  | double x =>
    intro h
    rcases Binary64.marked_text x with hmark | hmark
    all_goals
      rw [show x.text = [] from h] at hmark
      cases hmark

/-- Whole numbers have neither sign nor point nor exponent. -/
theorem not_mem_toDigits {n : Nat} {c : Char} (hc : c.isDigit = false) :
    c ∉ Nat.toDigits 10 n := by
  intro h
  have hdigit := Nat.isDigit_of_mem_toDigits (by decide) (by decide) h
  rw [hc] at hdigit
  cases hdigit

theorem Number.text_injective {m n : Number} (h : m.text = n.text) : m = n := by
  have hsign : ∀ {a b : Nat}, Nat.toDigits 10 a ≠ '-' :: Nat.toDigits 10 b := by
    intro a b hab
    exact not_mem_toDigits (n := a) (c := '-') rfl (hab ▸ List.mem_cons_self)
  have hmark : ∀ {a : Nat} {x : Binary64}, x.text ≠ Nat.toDigits 10 a ∧
      x.text ≠ '-' :: Nat.toDigits 10 a := by
    intro a x
    have hpoint : '.' ∉ Nat.toDigits 10 a := not_mem_toDigits rfl
    have hexp : 'e' ∉ Nat.toDigits 10 a := not_mem_toDigits rfl
    constructor
    all_goals
      intro hx
      rcases Binary64.marked_text x with hmem | hmem
      all_goals
        rw [hx] at hmem
        simp_all
  cases m with
  | whole a =>
    cases n with
    | whole b => exact congrArg _ (toDigits_injective (by decide) (by decide) h)
    | negative b => exact absurd h hsign
    | double y => exact absurd h.symm hmark.1
  | negative a =>
    cases n with
    | whole b => exact absurd h.symm hsign
    | negative b =>
      exact congrArg _ (toDigits_injective (by decide) (by decide) (List.cons.inj h).2)
    | double y => exact absurd h.symm hmark.2
  | double x =>
    cases n with
    | whole b => exact absurd h hmark.1
    | negative b => exact absurd h hmark.2
    | double y => exact congrArg _ (Binary64.text_injective h)

/-! ## Strings -/

/-- The character that a letter after a backslash stands for. -/
def unescape? : Char → Option Char
  | '"' => some '"'
  | '\\' => some '\\'
  | 'b' => some '\x08'
  | 'f' => some '\x0c'
  | 'n' => some '\n'
  | 'r' => some '\r'
  | 't' => some '\t'
  | _ => none

/-- The characters up to the closing quote, and what follows it. -/
def readChars? : List Char → Option (List Char × List Char)
  | [] => none
  | '"' :: rest => some ([], rest)
  | '\\' :: 'u' :: '0' :: '0' :: a :: b :: rest =>
    (digitIn? 16 a).bind fun x =>
      (digitIn? 16 b).bind fun y =>
        (readChars? rest).map fun p => (Char.ofNat (16 * x + y) :: p.1, p.2)
  | '\\' :: c :: rest =>
    (unescape? c).bind fun d => (readChars? rest).map fun p => (d :: p.1, p.2)
  | c :: rest => (readChars? rest).map fun p => (c :: p.1, p.2)

theorem readChars?_escapeChar (c : Char) (rest : List Char) :
    readChars? (escapeChar c ++ rest) = (readChars? rest).map fun p => (c :: p.1, p.2) := by
  unfold escapeChar
  split
  case h_8 _ hquote hslash _ _ _ _ _ =>
    split
    case isTrue hcontrol =>
      have hlt : c.toNat < 32 := hcontrol
      have hhigh := digitIn?_digitChar (b := 16) (d := c.toNat / 16) (by omega) (by decide)
      have hlow := digitIn?_digitChar (b := 16) (d := c.toNat % 16) (by omega) (by decide)
      have hchar : Char.ofNat (16 * (c.toNat / 16) + c.toNat % 16) = c := by
        rw [Nat.div_add_mod]
        exact Char.ofNat_toNat c
      simp [readChars?, hhigh, hlow, hchar]
    case isFalse =>
      rw [List.singleton_append, readChars?]
      all_goals simp_all
  all_goals simp [readChars?, unescape?]

theorem readChars?_quote (s rest : List Char) :
    readChars? (s.flatMap escapeChar ++ '"' :: rest) = some (s, rest) := by
  induction s with
  | nil => simp [readChars?]
  | cons c s ih =>
    rw [List.flatMap_cons, List.append_assoc, readChars?_escapeChar, ih]
    rfl

theorem quote_append_inj {s s' t t' : List Char} (h : quote s ++ t = quote s' ++ t') :
    s = s' ∧ t = t' := by
  simp only [quote, List.cons_append, List.append_assoc, List.cons.injEq, true_and,
    List.nil_append] at h
  have hread := readChars?_quote s t
  rw [h, readChars?_quote] at hread
  cases hread
  exact ⟨rfl, rfl⟩

/-! ## Values -/

/-- What follows is no part of a number. -/
def Ends (s : List Char) : Prop := ∀ c ∈ s.head?, isNumeric c = false

theorem Number.text_append_inj {m n : Number} {s t : List Char} (hs : Ends s) (ht : Ends t)
    (h : m.text ++ s = n.text ++ t) : m = n ∧ s = t := by
  have htake : ∀ {k : Number} {u : List Char}, Ends u →
      (k.text ++ u).takeWhile isNumeric = k.text := by
    intro k u hu
    rw [List.takeWhile_append_of_pos fun c hc => isNumeric_of_mem_text hc]
    cases u with
    | nil => simp
    | cons c u => simp [hu c rfl]
  have htext : m.text = n.text := by
    rw [← htake hs, h, htake ht]
  obtain rfl := Number.text_injective htext
  exact ⟨rfl, List.append_cancel_left h⟩

theorem Number.exists_head (n : Number) : ∃ c cs, n.text = c :: cs ∧ isNumeric c := by
  cases h : n.text with
  | nil => exact absurd h n.text_ne_nil
  | cons c cs =>
    have hmem : c ∈ n.text := by simp [h]
    exact ⟨c, cs, rfl, isNumeric_of_mem_text hmem⟩

/-- The character that a value starts with, where one stands for all that numbers may start with. -/
def opening : Json → Char
  | .null => 'n'
  | .bool true => 't'
  | .bool false => 'f'
  | .number _ => '0'
  | .string _ => '"'
  | .array _ => '['
  | .object _ => '\x7b'

theorem exists_head (v : Json) :
    ∃ c cs, compactChars v = c :: cs ∧ (if isNumeric c then '0' else c) = v.opening := by
  cases v with
  | number n =>
    obtain ⟨c, cs, hc, hnumeric⟩ := n.exists_head
    exact ⟨c, cs, by rw [compactChars, hc], if_pos hnumeric⟩
  | bool b => cases b <;> exact ⟨_, _, rfl, rfl⟩
  | array items => cases items <;> exact ⟨_, _, rfl, rfl⟩
  | object members => cases members <;> exact ⟨_, _, rfl, rfl⟩
  | _ => exact ⟨_, _, rfl, rfl⟩

/-- Two values are made in one way, and hold the same truth if they hold one. -/
inductive Alike : Json → Json → Prop where
  | null : Alike .null .null
  | bool (b : Bool) : Alike (.bool b) (.bool b)
  | number (m n : Number) : Alike (.number m) (.number n)
  | string (x y : String) : Alike (.string x) (.string y)
  | array (as bs : List Json) : Alike (.array as) (.array bs)
  | object (as bs : List (String × Json)) : Alike (.object as) (.object bs)

theorem alike_of_opening_eq {v w : Json} (h : v.opening = w.opening) : Alike v w := by
  have hbool : ∀ b : Bool, (Json.bool b).opening = if b then 't' else 'f' := by
    intro b
    cases b <;> rfl
  cases v <;> cases w
  case bool.bool b b' =>
    cases b <;> cases b' <;> first | exact .bool _ | cases h
  all_goals first
    | constructor
    | cases h
    | simp only [hbool] at h
      split at h <;> cases h

theorem alike_of_append_eq {v w : Json} {s t : List Char}
    (h : compactChars v ++ s = compactChars w ++ t) : Alike v w := by
  obtain ⟨c, cs, hc, hv⟩ := v.exists_head
  obtain ⟨d, ds, hd, hw⟩ := w.exists_head
  rw [hc, hd] at h
  obtain ⟨rfl, -⟩ := List.cons.inj h
  exact alike_of_opening_eq (hv.symm.trans hw)

/-- No value starts with a closing bracket. -/
theorem compactChars_append_ne {v : Json} {s t : List Char} : compactChars v ++ s ≠ ']' :: t := by
  obtain ⟨c, cs, hc, hv⟩ := v.exists_head
  intro h
  rw [hc] at h
  obtain ⟨rfl, -⟩ := List.cons.inj h
  cases v with
  | bool b => cases b <;> simp [opening] at hv <;> cases hv
  | _ => cases hv

theorem ends_compactItems (items : List Json) (s : List Char) : Ends (compactItems items ++ s) := by
  cases items <;> simp [Ends, compactItems] <;> rfl

theorem ends_compactMembers (members : List (String × Json)) (s : List Char) :
    Ends (compactMembers members ++ s) := by
  cases members <;> simp [Ends, compactMembers] <;> rfl

mutual

/-- A value is determined by its text, and so is where the text ends. -/
theorem compactChars_append_inj : (v w : Json) → {s t : List Char} → Ends s → Ends t →
    compactChars v ++ s = compactChars w ++ t → v = w ∧ s = t
  | .null, w, s, t, _, _, h => by
    cases alike_of_append_eq h
    exact ⟨rfl, List.append_cancel_left h⟩
  | .bool b, w, s, t, _, _, h => by
    cases alike_of_append_eq h
    exact ⟨rfl, List.append_cancel_left h⟩
  | .number n, w, s, t, hs, ht, h => by
    cases alike_of_append_eq h
    rw [compactChars, compactChars] at h
    obtain ⟨rfl, rfl⟩ := Number.text_append_inj hs ht h
    exact ⟨rfl, rfl⟩
  | .string x, w, s, t, _, _, h => by
    cases alike_of_append_eq h
    rw [compactChars, compactChars] at h
    obtain ⟨hxy, rfl⟩ := quote_append_inj h
    obtain rfl := String.toList_injective hxy
    exact ⟨rfl, rfl⟩
  | .array [], w, s, t, _, _, h => by
    cases alike_of_append_eq h with
    | array _ bs =>
      cases bs with
      | nil => exact ⟨rfl, List.append_cancel_left h⟩
      | cons w bs =>
        simp only [compactChars, List.cons_append, List.append_assoc, List.cons.injEq,
          true_and] at h
        exact absurd h.symm compactChars_append_ne
  | .array (v :: as), w, s, t, _, _, h => by
    cases alike_of_append_eq h with
    | array _ bs =>
      cases bs with
      | nil =>
        simp only [compactChars, List.cons_append, List.append_assoc, List.cons.injEq,
          true_and] at h
        exact absurd h compactChars_append_ne
      | cons w bs =>
        simp only [compactChars, List.cons_append, List.append_assoc, List.cons.injEq,
          true_and] at h
        obtain ⟨rfl, hrest⟩ := compactChars_append_inj v w (ends_compactItems as s)
          (ends_compactItems bs t) h
        obtain ⟨rfl, rfl⟩ := compactItems_append_inj as bs hrest
        exact ⟨rfl, rfl⟩
  | .object [], w, s, t, _, _, h => by
    cases alike_of_append_eq h with
    | object _ bs =>
      cases bs with
      | nil => exact ⟨rfl, List.append_cancel_left h⟩
      | cons w bs => simp [compactChars, quote] at h
  | .object ((name, v) :: as), w, s, t, _, _, h => by
    cases alike_of_append_eq h with
    | object _ bs =>
      cases bs with
      | nil => simp [compactChars, quote] at h
      | cons w bs =>
        obtain ⟨name', w⟩ := w
        simp only [compactChars, List.cons_append, List.append_assoc, List.cons.injEq,
          true_and] at h
        obtain ⟨hname, hvalue⟩ := quote_append_inj h
        obtain rfl := String.toList_injective hname
        simp only [List.cons.injEq, true_and] at hvalue
        obtain ⟨rfl, hrest⟩ := compactChars_append_inj v w (ends_compactMembers as s)
          (ends_compactMembers bs t) hvalue
        obtain ⟨rfl, rfl⟩ := compactMembers_append_inj as bs hrest
        exact ⟨rfl, rfl⟩

theorem compactItems_append_inj : (as bs : List Json) → {s t : List Char} →
    compactItems as ++ s = compactItems bs ++ t → as = bs ∧ s = t
  | [], [], s, t, h => by
    simpa [compactItems] using h
  | [], w :: bs, s, t, h => by
    simp [compactItems] at h
  | v :: as, [], s, t, h => by
    simp [compactItems] at h
  | v :: as, w :: bs, s, t, h => by
    simp only [compactItems, List.cons_append, List.append_assoc, List.cons.injEq, true_and] at h
    obtain ⟨rfl, hrest⟩ := compactChars_append_inj v w (ends_compactItems as s)
      (ends_compactItems bs t) h
    obtain ⟨rfl, rfl⟩ := compactItems_append_inj as bs hrest
    exact ⟨rfl, rfl⟩

theorem compactMembers_append_inj : (as bs : List (String × Json)) → {s t : List Char} →
    compactMembers as ++ s = compactMembers bs ++ t → as = bs ∧ s = t
  | [], [], s, t, h => by
    simpa [compactMembers] using h
  | [], (name, w) :: bs, s, t, h => by
    simp [compactMembers] at h
  | (name, v) :: as, [], s, t, h => by
    simp [compactMembers] at h
  | (name, v) :: as, (name', w) :: bs, s, t, h => by
    simp only [compactMembers, List.cons_append, List.append_assoc, List.cons.injEq, true_and] at h
    obtain ⟨hname, hvalue⟩ := quote_append_inj h
    obtain rfl := String.toList_injective hname
    simp only [List.cons.injEq, true_and] at hvalue
    obtain ⟨rfl, hrest⟩ := compactChars_append_inj v w (ends_compactMembers as s)
      (ends_compactMembers bs t) hvalue
    obtain ⟨rfl, rfl⟩ := compactMembers_append_inj as bs hrest
    exact ⟨rfl, rfl⟩

end

theorem compactChars_injective {v w : Json} (h : compactChars v = compactChars w) : v = w := by
  have hends : Ends [] := nofun
  have happend : compactChars v ++ [] = compactChars w ++ [] := by rw [h]
  exact (compactChars_append_inj v w hends hends happend).1

end EthRpc.Json
