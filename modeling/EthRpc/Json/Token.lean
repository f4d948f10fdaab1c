-- SUMMARY: The words of a JSON text.
import EthRpc.Json.Numeral

/-!
# Tokens

A text is cut into punctuation, literal words, numerals and strings; spaces,
tabs and line ends between them are dropped. A string may spell a surrogate
without its partner. Such a string is a token like any other, but it holds no
text: whether that matters depends on whether its content is asked for.
-/

namespace EthRpc.Json

inductive Token where
  | openArray | closeArray
  | openObject | closeObject
  | comma | colon
  | null
  | bool (b : Bool)
  | numeral (n : Numeral)
  /-- A string, without content if a surrogate in it stands alone. -/
  | string (s : Option (List Char))
  deriving DecidableEq

namespace Token

def isBlank (c : Char) : Bool := c = ' ' ∨ c = '\t' ∨ c = '\n' ∨ c = '\r'

/-- The longest run of decimal digits at the front. -/
def spanDigits (cs : List Char) : List Char × List Char :=
  (cs.takeWhile Char.isDigit, cs.dropWhile Char.isDigit)

/-- A numeral at the front: no zero before other digits, and a digit after a point and in an exponent. -/
def numeral? (cs : List Char) : Option (Numeral × List Char) :=
  let (negative, cs) := match cs with
    | '-' :: rest => (true, rest)
    | _ => (false, cs)
  let (whole, cs) := spanDigits cs
  if whole = [] ∨ (whole.head? = some '0' ∧ whole.length ≠ 1) then none
  else
    match fraction? cs with
    | none => none
    | some (fraction, cs) =>
      match exponent? cs with
      | none => none
      | some (exponent, cs) => some (⟨negative, whole, fraction, exponent⟩, cs)
where
  fraction? : List Char → Option (Option (List Char) × List Char)
    | '.' :: cs =>
      let (ds, rest) := spanDigits cs
      if ds = [] then none else some (some ds, rest)
    | cs => some (none, cs)
  exponent? : List Char → Option (Option (Bool × List Char) × List Char)
    | c :: cs =>
      if c = 'e' ∨ c = 'E' then
        let (down, cs) := match cs with
          | '+' :: rest => (false, rest)
          | '-' :: rest => (true, rest)
          | _ => (false, cs)
        let (ds, rest) := spanDigits cs
        if ds = [] then none else some (some (down, ds), rest)
      else some (none, c :: cs)
    | [] => some (none, [])

/-- The unit spelled by four hexadecimal digits. -/
def unit? (a b c d : Char) : Option Nat := readDigits? 16 0 [a, b, c, d]

def isHigh (u : Nat) : Bool := 0xD800 ≤ u ∧ u ≤ 0xDBFF

def isLow (u : Nat) : Bool := 0xDC00 ≤ u ∧ u ≤ 0xDFFF

/-- What a backslash and one character spell. -/
def escape? : Char → Option Char
  | '"' => some '"'
  | '\\' => some '\\'
  | '/' => some '/'
  | 'b' => some '\x08'
  | 'f' => some '\x0c'
  | 'n' => some '\n'
  | 'r' => some '\r'
  | 't' => some '\t'
  | _ => none

/-- The content of a string up to its closing quote. The text so far is `acc`, last character
first, and `none` once a surrogate stood alone; `high` is a leading surrogate that waits for its
partner. -/
def content? (acc : Option (List Char)) (high : Option Nat) :
    List Char → Option (Option (List Char) × List Char)
  | '"' :: cs => some (finish acc high, cs)
  | '\\' :: 'u' :: a :: b :: c :: d :: cs =>
    match unit? a b c d with
    | none => none
    | some u =>
      match high with
      | some h =>
        if isLow u then
          let code := 0x10000 + (h - 0xD800) * 0x400 + (u - 0xDC00)
          content? (acc.map (Char.ofNat code :: ·)) none cs
        else content? none (if isHigh u then some u else none) cs
      | none =>
        if isHigh u then content? acc (some u) cs
        else if isLow u then content? none none cs
        else content? (acc.map (Char.ofNat u :: ·)) none cs
  | '\\' :: c :: cs =>
    match escape? c with
    | none => none
    | some e => content? ((alone acc high).map (e :: ·)) none cs
  | c :: cs => if c < ' ' then none else content? ((alone acc high).map (c :: ·)) none cs
  | [] => none
where
  /-- What is left of the text when a waiting surrogate finds no partner. -/
  alone (acc : Option (List Char)) : Option Nat → Option (List Char)
    | none => acc
    | some _ => none
  finish (acc : Option (List Char)) (high : Option Nat) : Option (List Char) :=
    (alone acc high).map List.reverse

/-- The token at the front of a text that starts with no blank. -/
def next? : List Char → Option (Token × List Char)
  | '[' :: cs => some (.openArray, cs)
  | ']' :: cs => some (.closeArray, cs)
  | '{' :: cs => some (.openObject, cs)
  | '}' :: cs => some (.closeObject, cs)
  | ',' :: cs => some (.comma, cs)
  | ':' :: cs => some (.colon, cs)
  | '"' :: cs => (content? (some []) none cs).map fun (s, rest) => (.string s, rest)
  | 'n' :: 'u' :: 'l' :: 'l' :: cs => some (.null, cs)
  | 't' :: 'r' :: 'u' :: 'e' :: cs => some (.bool true, cs)
  | 'f' :: 'a' :: 'l' :: 's' :: 'e' :: cs => some (.bool false, cs)
  | cs => (numeral? cs).map fun (n, rest) => (.numeral n, rest)

/-- All tokens of a text; each takes at least one character, so `fuel` is the length at most. -/
def scanFrom : Nat → List Char → Option (List Token)
  | _, [] => some []
  | 0, _ :: _ => none
  | fuel + 1, c :: cs =>
    if isBlank c then scanFrom fuel cs
    else
      match next? (c :: cs) with
      | none => none
      | some (t, rest) => (scanFrom fuel rest).map (t :: ·)

/-- All tokens of a text. -/
def scan (cs : List Char) : Option (List Token) := scanFrom cs.length cs

end Token

end EthRpc.Json
