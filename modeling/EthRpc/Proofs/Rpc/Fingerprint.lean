-- SUMMARY: Only requests with the same method and the same parameters have the same fingerprint.
import EthRpc.Proofs.Json.Printer
import EthRpc.Rpc.Request

/-!
# Fingerprints

A fingerprint is the method, a colon and the text of the parameters. Methods and
strings may have colons and brackets too, so the colon cannot be found by
looking for it. But what follows it is a whole array, and no proper end of the
text of an array that follows a colon is one: a scan of the text would be inside
brackets or inside a string there.
-/

namespace EthRpc

namespace Json

/-! ## Scanning -/

/-- Where a scan of a text is: how many brackets are open, and whether it is in a string. -/
inductive Place where
  | outside (depth : Nat)
  | inside (depth : Nat)
  /-- In a string, after a backslash. -/
  | escaped (depth : Nat)
  /-- After the last bracket. -/
  | closed

namespace Place

/-- A bracket is closed. -/
def close : Nat → Place
  | 0 => closed
  | depth + 1 => outside depth

/-- The place after one more character, if it may stand there. -/
def next? (c : Char) : Place → Option Place
  | outside d =>
    match c with
    | '"' => some (inside d)
    | '\\' => none
    | '[' | '\x7b' => some (outside (d + 1))
    | ']' | '\x7d' => some (close d)
    | _ => some (outside d)
  | inside d =>
    match c with
    | '"' => some (outside d)
    | '\\' => some (escaped d)
    | _ => some (inside d)
  | escaped d => some (inside d)
  | closed => none

def scan (p : Place) : List Char → Option Place
  | [] => some p
  | c :: cs => (p.next? c).bind fun p => p.scan cs

@[simp] theorem scan_nil (p : Place) : p.scan [] = some p := rfl

theorem scan_cons (p : Place) (c : Char) (cs : List Char) :
    p.scan (c :: cs) = (p.next? c).bind fun p => p.scan cs := rfl

theorem scan_append (p : Place) (as bs : List Char) :
    p.scan (as ++ bs) = (p.scan as).bind fun p => p.scan bs := by
  induction as generalizing p with
  | nil => rfl
  | cons a as ih =>
    rw [List.cons_append, scan_cons, scan_cons]
    cases p.next? a with
    | none => rfl
    | some p => exact ih p

end Place

open Place

/-! ### Numbers and strings -/

theorem next?_of_isNumeric {c : Char} (h : isNumeric c) (d : Nat) :
    (outside d).next? c = some (outside d) ∧ (inside d).next? c = some (inside d) := by
  simp only [next?]
  constructor
  · split <;> first | rfl | cases h
  · split <;> first | rfl | cases h

theorem scan_numeric {cs : List Char} (h : ∀ c ∈ cs, isNumeric c) (d : Nat) :
    (outside d).scan cs = some (outside d) := by
  induction cs with
  | nil => rfl
  | cons c cs ih =>
    rw [scan_cons, (next?_of_isNumeric (h c List.mem_cons_self) d).1]
    exact ih fun c hc => h c (List.mem_cons_of_mem _ hc)

theorem next?_inside {c : Char} (hquote : c ≠ '"') (hslash : c ≠ '\\') (d : Nat) :
    (inside d).next? c = some (inside d) := by
  simp only [next?]

theorem next?_outside {c : Char} {d : Nat} {p : Place} (hquote : c ≠ '"')
    (h : (outside d).next? c = some p) : (∃ e, p = outside e) ∨ p = closed := by
  simp only [next?] at h
  split at h
  · exact absurd rfl hquote
  · cases h
  · cases h
    exact .inl ⟨_, rfl⟩
  · cases h
    exact .inl ⟨_, rfl⟩
  · cases h
    cases d with
    | zero => exact .inr rfl
    | succ d => exact .inl ⟨d, rfl⟩
  · cases h
    cases d with
    | zero => exact .inr rfl
    | succ d => exact .inl ⟨d, rfl⟩
  · cases h
    exact .inl ⟨_, rfl⟩

/-- Every character of a string is written as itself or with a backslash. -/
theorem escapeChar_cases (c : Char) :
    (∃ cs, escapeChar c = '\\' :: cs) ∨ escapeChar c = [c] ∧ c ≠ '"' ∧ c ≠ '\\' := by
  unfold escapeChar
  split
  case h_8 hquote hslash _ _ _ _ _ =>
    split
    · exact .inl ⟨_, rfl⟩
    · exact .inr ⟨rfl, hquote, hslash⟩
  all_goals exact .inl ⟨_, rfl⟩

theorem scan_escapeChar (c : Char) (d : Nat) :
    (inside d).scan (escapeChar c) = some (inside d) := by
  have hdigit : ∀ n < 16, Nat.digitChar n ≠ '"' ∧ Nat.digitChar n ≠ '\\' := by decide
  unfold escapeChar
  split
  case h_8 hquote hslash _ _ _ _ _ =>
    split
    case isTrue hcontrol =>
      have hlt : c.toNat < 32 := hcontrol
      have hhigh := hdigit (c.toNat / 16) (by omega)
      have hlow := hdigit (c.toNat % 16) (by omega)
      simp [scan_cons, next?]
    case isFalse => simp [scan_cons, next?_inside hquote hslash]
  all_goals rfl

theorem scan_escapes (s : List Char) (d : Nat) :
    (inside d).scan (s.flatMap escapeChar) = some (inside d) := by
  induction s with
  | nil => rfl
  | cons c s ih =>
    rw [List.flatMap_cons, scan_append, scan_escapeChar]
    exact ih

/-- The inside of a string is not taken for text outside of one up to its closing quote. -/
theorem scan_escapes_outside {s : List Char} {p q : Place} (hp : (∃ d, p = outside d) ∨ p = closed)
    (h : p.scan (s.flatMap escapeChar ++ ['"']) = some q) : ∃ d, q = inside d := by
  induction s generalizing p with
  | nil =>
    rcases hp with ⟨d, rfl⟩ | rfl
    · cases h
      exact ⟨d, rfl⟩
    · cases h
  | cons c s ih =>
    rw [List.flatMap_cons, List.append_assoc, scan_append] at h
    obtain ⟨p', hp', hrest⟩ := Option.bind_eq_some_iff.1 h
    refine ih ?_ hrest
    rcases hp with ⟨d, rfl⟩ | rfl
    · rcases escapeChar_cases c with ⟨cs, hcs⟩ | ⟨hc, hquote, -⟩
      · rw [hcs] at hp'
        cases hp'
      · rw [hc, scan_cons] at hp'
        obtain ⟨p'', hnext, hp''⟩ := Option.bind_eq_some_iff.1 hp'
        cases hp''
        exact next?_outside hquote hnext
    · rcases escapeChar_cases c with ⟨cs, hcs⟩ | ⟨hc, -⟩
      · rw [hcs] at hp'
        cases hp'
      · rw [hc] at hp'
        cases hp'

theorem scan_quote (s : List Char) (d : Nat) : (outside d).scan (quote s) = some (outside d) := by
  rw [quote, scan_cons]
  change (inside d).scan _ = _
  rw [scan_append, scan_escapes]
  rfl

/-! ### Values -/

theorem scan_bracket (d : Nat) (cs : List Char) :
    (outside d).scan ('[' :: cs) = (outside (d + 1)).scan cs := rfl

theorem scan_brace (d : Nat) (cs : List Char) :
    (outside d).scan ('\x7b' :: cs) = (outside (d + 1)).scan cs := rfl

theorem scan_comma (d : Nat) (cs : List Char) :
    (outside d).scan (',' :: cs) = (outside d).scan cs := rfl

theorem scan_colon (d : Nat) (cs : List Char) :
    (outside d).scan (':' :: cs) = (outside d).scan cs := rfl

mutual

/-- A value leaves as many brackets open as it finds. -/
theorem scan_compactChars (d : Nat) :
    (v : Json) → (outside d).scan (compactChars v) = some (outside d)
  | .null => rfl
  | .bool true => rfl
  | .bool false => rfl
  | .number n => by
    rw [compactChars]
    exact scan_numeric (fun c hc => isNumeric_of_mem_text hc) d
  | .string s => by
    rw [compactChars]
    exact scan_quote s.toList d
  | .array [] => rfl
  | .array (v :: items) => by
    rw [compactChars, scan_bracket, scan_append, scan_compactChars, Option.bind_some]
    exact scan_compactItems (d + 1) items
  | .object [] => rfl
  | .object ((name, v) :: members) => by
    rw [compactChars, scan_brace, scan_append, scan_quote, Option.bind_some, scan_colon,
      scan_append, scan_compactChars, Option.bind_some]
    exact scan_compactMembers (d + 1) members

theorem scan_compactItems (d : Nat) :
    (items : List Json) → (outside d).scan (compactItems items) = some (close d)
  | [] => rfl
  | v :: items => by
    rw [compactItems, scan_comma, scan_append, scan_compactChars, Option.bind_some]
    exact scan_compactItems d items

theorem scan_compactMembers (d : Nat) :
    (members : List (String × Json)) →
      (outside d).scan (compactMembers members) = some (close d)
  | [] => rfl
  | (name, v) :: members => by
    rw [compactMembers, scan_comma, scan_append, scan_quote, Option.bind_some, scan_colon,
      scan_append, scan_compactChars, Option.bind_some]
    exact scan_compactMembers d members

end

/-! ### Values that are read as part of a string -/

/-- Reading that starts in a string ends in one. -/
def StaysInside (cs : List Char) : Prop :=
  ∀ d p, (inside d).scan cs = some p → ∃ e, p = inside e

namespace StaysInside

theorem of_scan {cs : List Char} (h : ∀ d, (inside d).scan cs = some (inside d)) :
    StaysInside cs := by
  intro d p hscan
  rw [h] at hscan
  cases hscan
  exact ⟨d, rfl⟩

/-- A character in front that has no meaning in a string. -/
theorem cons {c : Char} {cs : List Char} (hc : ∀ d, (inside d).next? c = some (inside d))
    (h : StaysInside cs) : StaysInside (c :: cs) := by
  intro d p hscan
  rw [scan_cons, hc] at hscan
  exact h d p hscan

theorem append {as bs : List Char} (ha : StaysInside as) (hb : StaysInside bs) :
    StaysInside (as ++ bs) := by
  intro d p h
  rw [scan_append] at h
  obtain ⟨p', has, hbs⟩ := Option.bind_eq_some_iff.1 h
  obtain ⟨e, rfl⟩ := ha d p' has
  exact hb e p hbs

theorem numeric {cs : List Char} (h : ∀ c ∈ cs, isNumeric c) : StaysInside cs := by
  induction cs with
  | nil => exact of_scan fun _ => rfl
  | cons c cs ih =>
    refine cons (fun d => (next?_of_isNumeric (h c List.mem_cons_self) d).2) ?_
    exact ih fun c hc => h c (List.mem_cons_of_mem _ hc)

/-- The first quote ends the string that the reading is in, and the last one starts another. -/
theorem quoted (s : List Char) : StaysInside (quote s) := by
  intro d p h
  exact scan_escapes_outside (.inl ⟨d, rfl⟩) h

theorem member {name : String} {v : Json} {rest : List Char}
    (hv : StaysInside (compactChars v)) (hrest : StaysInside rest) :
    StaysInside (quote name.toList ++ ':' :: (compactChars v ++ rest)) :=
  (quoted name.toList).append (cons (fun _ => rfl) (hv.append hrest))

mutual

theorem value : (v : Json) → StaysInside (compactChars v)
  | .null => of_scan fun _ => rfl
  | .bool true => of_scan fun _ => rfl
  | .bool false => of_scan fun _ => rfl
  | .number n => by
    rw [compactChars]
    exact numeric fun c hc => isNumeric_of_mem_text hc
  | .string s => by
    rw [compactChars]
    exact quoted s.toList
  | .array [] => of_scan fun _ => rfl
  | .array (v :: rest) => by
    rw [compactChars]
    exact cons (fun _ => rfl) ((value v).append (items rest))
  | .object [] => of_scan fun _ => rfl
  | .object ((name, v) :: rest) => by
    rw [compactChars]
    exact cons (fun _ => rfl) (member (value v) (members rest))

theorem items : (items : List Json) → StaysInside (compactItems items)
  | [] => of_scan fun _ => rfl
  | v :: rest => by
    rw [compactItems]
    exact cons (fun _ => rfl) ((value v).append (items rest))

theorem members : (members : List (String × Json)) → StaysInside (compactMembers members)
  | [] => of_scan fun _ => rfl
  | (name, v) :: rest => by
    rw [compactMembers]
    exact cons (fun _ => rfl) (member (value v) (members rest))

end

end StaysInside

/-! ## Ends of arrays -/

/-- After its first bracket, an array closes all brackets with its last character. -/
theorem exists_scan_array (items : List Json) :
    ∃ body, compactChars (.array items) = '[' :: body ∧ (outside 0).scan body = some closed := by
  cases items with
  | nil => exact ⟨_, rfl, rfl⟩
  | cons v items =>
    refine ⟨_, rfl, ?_⟩
    rw [scan_append, scan_compactChars, Option.bind_some]
    exact scan_compactItems 0 items

/-- No end of an array that follows a colon in it is an array. -/
theorem compactChars_array_ne {as bs : List Json} (pre : List Char) :
    compactChars (.array as) ≠ pre ++ ':' :: compactChars (.array bs) := by
  obtain ⟨body, hbody, hscan⟩ := exists_scan_array as
  rw [hbody]
  intro h
  cases pre with
  | nil => cases h
  | cons c pre =>
    have htail : body = (pre ++ [':']) ++ compactChars (.array bs) := by
      simpa using (List.cons.inj h).2
    rw [htail, scan_append] at hscan
    obtain ⟨p, hp, hclosed⟩ := Option.bind_eq_some_iff.1 hscan
    rw [scan_append] at hp
    obtain ⟨p₀, -, hcolon⟩ := Option.bind_eq_some_iff.1 hp
    have hplace : (∃ d, p = outside d) ∨ ∃ d, p = inside d := by
      cases p₀ with
      | outside d =>
        cases hcolon
        exact .inl ⟨d, rfl⟩
      | inside d =>
        cases hcolon
        exact .inr ⟨d, rfl⟩
      | escaped d =>
        cases hcolon
        exact .inr ⟨d, rfl⟩
      | closed => cases hcolon
    rcases hplace with ⟨d, rfl⟩ | ⟨d, rfl⟩
    · rw [scan_compactChars] at hclosed
      cases hclosed
    · obtain ⟨e, he⟩ := StaysInside.value (.array bs) d closed hclosed
      cases he

end Json

namespace Request

theorem toList_fingerprint (q : Request) :
    q.fingerprint.toList = q.method.toList ++ ':' :: Json.compactChars (.array q.params) := by
  simp [fingerprint, Json.compact]

/-- The fingerprint is the request, but for its id. -/
theorem eq_of_fingerprint_eq {q q' : Request} (h : q.fingerprint = q'.fingerprint) :
    q.method = q'.method ∧ q.params = q'.params := by
  have hlist := congrArg String.toList h
  rw [toList_fingerprint, toList_fingerprint] at hlist
  -- One method is the beginning of the other; what is left of that one would stand in front of
  -- an array.
  have hmethod : q.method.toList = q'.method.toList := by
    rcases List.append_eq_append_iff.1 hlist with ⟨zs, hmethod, hrest⟩ | ⟨zs, hmethod, hrest⟩
    · cases zs with
      | nil => simpa using hmethod.symm
      | cons z zs => exact absurd (List.cons.inj hrest).2 (Json.compactChars_array_ne zs)
    · cases zs with
      | nil => simpa using hmethod
      | cons z zs => exact absurd (List.cons.inj hrest).2 (Json.compactChars_array_ne zs)
  rw [hmethod] at hlist
  have htext := (List.cons.inj (List.append_cancel_left hlist)).2
  exact ⟨String.toList_injective hmethod, Json.array.inj (Json.compactChars_injective htext)⟩

end Request

end EthRpc
