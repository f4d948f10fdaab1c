-- SUMMARY: JSON values as text, compact or indented.
import EthRpc.Json.Basic

/-!
# Printing JSON

Strings escape the quote, the backslash and control characters only. The compact
form has no blanks. The indented form gives every item and member its own line,
two spaces deeper than its bracket, and leaves empty brackets closed up.
-/

namespace EthRpc.Json

/-- A character inside a string. -/
def escapeChar (c : Char) : List Char :=
  match c with
  | '"' => ['\\', '"']
  | '\\' => ['\\', '\\']
  | '\x08' => ['\\', 'b']
  | '\x0c' => ['\\', 'f']
  | '\n' => ['\\', 'n']
  | '\r' => ['\\', 'r']
  | '\t' => ['\\', 't']
  | c =>
    if c < ' ' then ['\\', 'u', '0', '0', Nat.digitChar (c.toNat / 16), Nat.digitChar (c.toNat % 16)]
    else [c]

/-- A string with its quotes. -/
def quote (s : List Char) : List Char := '"' :: (s.flatMap escapeChar ++ ['"'])

/-- The text of a number. -/
def Number.text : Number → List Char
  | .whole n => Nat.toDigits 10 n
  | .negative n => '-' :: Nat.toDigits 10 n
  | .double x => x.text

/-! ## Compact -/

mutual

def compactChars : Json → List Char
  | .null => ['n', 'u', 'l', 'l']
  | .bool true => ['t', 'r', 'u', 'e']
  | .bool false => ['f', 'a', 'l', 's', 'e']
  | .number n => n.text
  | .string s => quote s.toList
  | .array [] => ['[', ']']
  | .array (v :: rest) => '[' :: (compactChars v ++ compactItems rest)
  | .object [] => ['{', '}']
  | .object ((name, v) :: rest) =>
    '{' :: (quote name.toList ++ ':' :: (compactChars v ++ compactMembers rest))

/-- The items after the first, and the closing bracket. -/
def compactItems : List Json → List Char
  | [] => [']']
  | v :: rest => ',' :: (compactChars v ++ compactItems rest)

/-- The members after the first, and the closing bracket. -/
def compactMembers : List (String × Json) → List Char
  | [] => ['}']
  | (name, v) :: rest =>
    ',' :: (quote name.toList ++ ':' :: (compactChars v ++ compactMembers rest))

end

/-- A value on one line without blanks. -/
def compact (v : Json) : String := String.ofList (compactChars v)

/-! ## Indented -/

def newline (depth : Nat) : List Char := '\n' :: List.replicate (2 * depth) ' '

mutual

def prettyChars (depth : Nat) : Json → List Char
  | .array [] => ['[', ']']
  | .array (v :: rest) =>
    '[' :: (newline (depth + 1) ++ prettyChars (depth + 1) v ++ prettyItems depth rest)
  | .object [] => ['{', '}']
  | .object ((name, v) :: rest) =>
    '{' :: (newline (depth + 1) ++ quote name.toList ++ [':', ' '] ++
      prettyChars (depth + 1) v ++ prettyMembers depth rest)
  | v => compactChars v

def prettyItems (depth : Nat) : List Json → List Char
  | [] => newline depth ++ [']']
  | v :: rest => ',' :: (newline (depth + 1) ++ prettyChars (depth + 1) v ++ prettyItems depth rest)

def prettyMembers (depth : Nat) : List (String × Json) → List Char
  | [] => newline depth ++ ['}']
  | (name, v) :: rest =>
    ',' :: (newline (depth + 1) ++ quote name.toList ++ [':', ' '] ++
      prettyChars (depth + 1) v ++ prettyMembers depth rest)

end

/-- A value over several lines; members keep the order they are given in. -/
def pretty (v : Json) : String := String.ofList (prettyChars 0 v)

end EthRpc.Json
