-- SUMMARY: Keys, numbers and strings in TOML.
import EthRpc.Config.Decimal
import EthRpc.Config.Toml.Moment

/-!
# TOML scalars

Every reader takes a value off the front of a text and leaves the rest. Numbers
may have underscores between digits. Strings in double quotes have escapes, those
in single quotes have none, and three quotes let a string run over lines.
-/

namespace EthRpc.Toml

open Config (Decimal)

def isBlank (c : Char) : Bool := c = ' ' || c = '\t'

def skipBlanks (cs : List Char) : List Char := cs.dropWhile isBlank

/-- A character that may stand in comments and strings. -/
def isPrintable (c : Char) : Bool := c = '\t' || (0x20 ≤ c.toNat && c.toNat ≠ 0x7f)

/-- The rest of a text after a line end, if it starts with one. -/
def lineEnd? : List Char → Option (List Char)
  | '\n' :: cs => some cs
  | '\r' :: '\n' :: cs => some cs
  | _ => none

/-! ## Strings -/

/-- A character by its number in exactly `count` digits. -/
def numbered? (count : Nat) (cs : List Char) : Option (Char × List Char) := do
  let (n, rest) ← takeDigits? 16 count cs
  return (← charOf? n, rest)

/-- What a backslash and the text after it spell. -/
def escape? : Reader Char
  | 'b' :: cs => some ('\x08', cs)
  | 't' :: cs => some ('\t', cs)
  | 'n' :: cs => some ('\n', cs)
  | 'f' :: cs => some ('\x0c', cs)
  | 'r' :: cs => some ('\r', cs)
  | '"' :: cs => some ('"', cs)
  | '\\' :: cs => some ('\\', cs)
  | 'u' :: cs => numbered? 4 cs
  | 'U' :: cs => numbered? 8 cs
  | _ => none

/-- The rest of a basic string after its opening quote; `acc` is the text so far, backwards. -/
def basicFrom (acc : List Char) : Nat → Reader String
  | 0, _ => none
  | fuel + 1, cs =>
    match cs with
    | '"' :: rest => some (String.ofList acc.reverse, rest)
    | '\\' :: rest => (escape? rest).bind fun (c, rest) => basicFrom (c :: acc) fuel rest
    | c :: rest => if isPrintable c then basicFrom (c :: acc) fuel rest else none
    | [] => none

/-- The rest of a literal string after its opening quote. -/
def literal? (cs : List Char) : Option (String × List Char) :=
  let inside := cs.takeWhile fun c => c ≠ '\x27' ∧ isPrintable c
  match cs.drop inside.length with
  | '\x27' :: rest => some (String.ofList inside, rest)
  | _ => none

/-- The text after the blanks and line ends at its front. -/
def skipFolded : List Char → List Char
  | '\r' :: '\n' :: cs => skipFolded cs
  | c :: cs => if isBlank c ∨ c = '\n' then skipFolded cs else c :: cs
  | [] => []

/-- The text after blanks and line ends, if there is a line end before anything else. -/
def foldedLines? (cs : List Char) : Option (List Char) :=
  (lineEnd? (skipBlanks cs)).map skipFolded

/-- The rest of a string over several lines, which ends with three quotes; up to two more belong to
the text before them. -/
def linesFrom (quote : Char) (acc : List Char) : Nat → Reader String
  | 0, _ => none
  | fuel + 1, cs =>
    let quotes := (cs.takeWhile (· = quote)).length
    if 3 ≤ quotes then
      if quotes ≤ 5 then
        some (String.ofList (List.replicate (quotes - 3) quote ++ acc).reverse, cs.drop quotes)
      else none
    else
      match lineEnd? cs with
      | some rest => linesFrom quote ('\n' :: acc) fuel rest
      | none =>
        match cs with
        | '\\' :: rest =>
          if quote = '"' then
            match foldedLines? rest with
            | some rest => linesFrom quote acc fuel rest
            | none => (escape? rest).bind fun (c, rest) => linesFrom quote (c :: acc) fuel rest
          else linesFrom quote ('\\' :: acc) fuel rest
        | c :: rest => if isPrintable c then linesFrom quote (c :: acc) fuel rest else none
        | [] => none

/-- A line end right after the opening quotes does not count. -/
def lines? (quote : Char) (cs : List Char) : Option (String × List Char) :=
  linesFrom quote [] (cs.length + 1) ((lineEnd? cs).getD cs)

def string? : Reader String
  | '"' :: '"' :: '"' :: cs => lines? '"' cs
  | '\x27' :: '\x27' :: '\x27' :: cs => lines? '\x27' cs
  | '"' :: cs => basicFrom [] (cs.length + 1) cs
  | '\x27' :: cs => literal? cs
  | _ => none

/-! ## Keys -/

def isBareKey (c : Char) : Bool := c.isAlphanum || c = '_' || c = '-'

/-- One part of a key. -/
def keyPart? (cs : List Char) : Option (String × List Char) :=
  match cs with
  | '"' :: rest => basicFrom [] (rest.length + 1) rest
  | '\x27' :: rest => literal? rest
  | _ =>
    match cs.takeWhile isBareKey with
    | [] => none
    | name => some (String.ofList name, cs.dropWhile isBareKey)

/-- Keys have fewer parts, and lists and tables lie less deep in each other. -/
def depthBound : Nat := 80

/-- A key: parts with dots between them. -/
def keyFrom : Nat → Reader (List String)
  | 0, _ => none
  | fuel + 1, cs => do
    let (part, rest) ← keyPart? (skipBlanks cs)
    match skipBlanks rest with
    | '.' :: rest =>
      let (parts, rest) ← keyFrom fuel rest
      return (part :: parts, rest)
    | rest => return ([part], rest)

def key? (cs : List Char) : Option (List String × List Char) :=
  (keyFrom (cs.length + 1) cs).filter (·.1.length < depthBound)

/-! ## Numbers -/

/-- Digits with single underscores between them. -/
def digits? (isDigit : Char → Bool) (cs : List Char) : Option (List Char) :=
  let pieces := cs.splitOn '_'
  if pieces.all fun piece => piece ≠ [] && piece.all isDigit then some pieces.flatten else none

/-- A decimal number with no zero before other digits. -/
def decimalDigits? (cs : List Char) : Option (List Char) :=
  (digits? Char.isDigit cs).filter fun ds => ds.length = 1 ∨ ds.head? ≠ some '0'

def inRange? (n : Int) : Option Config.Value :=
  if -(1 <<< 63 : Nat) ≤ n ∧ n < (1 <<< 63 : Nat) then some (.whole n) else none

def integer? (cs : List Char) : Option Config.Value :=
  let based (base : Nat) (cs : List Char) : Option Config.Value := do
    let ds ← digits? (fun c => (digitIn? base c).isSome) cs
    inRange? (← readDigits? base 0 ds)
  match cs with
  | '0' :: 'x' :: rest => based 16 rest
  | '0' :: 'o' :: rest => based 8 rest
  | '0' :: 'b' :: rest => based 2 rest
  | _ => do
    let (negative, rest) := Decimal.sign cs
    let n : Int ← readDigits? 10 0 (← decimalDigits? rest)
    inRange? (if negative then -n else n)

/-- A number with a fraction or an exponent or both. One that is too large has no value, one that is
too small is infinite. -/
def double? (cs : List Char) : Option Config.Value :=
  let (negative, body) := Decimal.sign cs
  if body = ['i', 'n', 'f'] then some (.infinite negative)
  else if body = ['n', 'a', 'n'] then some .notANumber
  else do
    let (mantissa, exponent) := Decimal.cut ['e', 'E'] body
    let (front, fraction) := Decimal.cut ['.'] mantissa
    if exponent.isNone ∧ fraction.isNone then none
    else
      let whole ← decimalDigits? front
      let places ← match fraction with
        | none => some []
        | some ds => digits? Char.isDigit ds
      let e : Int ← match exponent with
        | none => some 0
        | some ds => do
          let (down, ds) := Decimal.sign ds
          let n : Int ← readDigits? 10 0 (← digits? Char.isDigit ds)
          pure (if down then -n else n)
      let digits ← readDigits? 10 0 (whole ++ places)
      match (⟨negative, digits, e - places.length⟩ : Decimal).value with
      | .infinite false => none
      | v => some v

/-! ## Scalars -/

def isNumberChar (c : Char) : Bool := c.isAlphanum || c = '_' || c = '+' || c = '-' || c = '.'

/-- A scalar, of which dates and times are written as text but are none. -/
inductive Scalar where
  | plain (v : Config.Value)
  | moment (text : String)

def Scalar.value : Scalar → Config.Value
  | plain v => v
  | moment text => .text text

def scalar? (cs : List Char) : Option (Scalar × List Char) :=
  match string? cs with
  | some (s, rest) => some (.plain (.text s), rest)
  | none =>
    if cs.head? = some '"' ∨ cs.head? = some '\x27' then none
    else
      match moment? cs with
      | some (text, rest) => some (.moment (String.ofList text), rest)
      | none =>
        let word := cs.takeWhile isNumberChar
        let rest := cs.drop word.length
        if word = ['t', 'r', 'u', 'e'] then some (.plain (.flag true), rest)
        else if word = ['f', 'a', 'l', 's', 'e'] then some (.plain (.flag false), rest)
        else ((integer? word) <|> (double? word)).map fun v => (.plain v, rest)

end EthRpc.Toml
