-- SUMMARY: JSON with comments, names without quotes, and more ways to write numbers and strings.
import EthRpc.Config.Decimal
import EthRpc.Text.Letters

/-!
# JSON5

JSON as it is written by hand: with comments, commas at the end, names without
quotes, strings in quotes of either kind and over several lines, and numbers with
signs, points at either end, or in base sixteen. Whole numbers have 63 bits, or
32 in base sixteen, and of the numbers with signs only some are known by word.
-/

namespace EthRpc.Config.Json5

/-- Take something off the front of a text. -/
abbrev Reader (α : Type) := List Char → Option (α × List Char)

/-! ## Blanks and comments -/

def isLineEnd (c : Char) : Bool := c = '\n' || c = '\r' || c = '\u2028' || c = '\u2029'

def isSpace (c : Char) : Bool := c = '\ufeff' || (Text.isBlank c && c ≠ '\x85')

/-- The text after the end of a comment. -/
def afterComment? : List Char → Option (List Char)
  | [] => none
  | '*' :: '/' :: cs => some cs
  | _ :: cs => afterComment? cs

/-- Skip blanks and comments, of which there are no more than `fuel`. -/
def skipFrom : (fuel : Nat) → List Char → List Char
  | 0, cs => cs
  | fuel + 1, cs =>
    match cs.dropWhile isSpace with
    | '/' :: '/' :: rest => skipFrom fuel (rest.dropWhile (!isLineEnd ·))
    | '/' :: '*' :: rest =>
      match afterComment? rest with
      | some after => skipFrom fuel after
      | none => '/' :: '*' :: rest
    | rest => rest

def skip (cs : List Char) : List Char := skipFrom (cs.length + 1) cs

/-! ## Numbers -/

def isHexDigit (c : Char) : Bool := (digitIn? 16 c).isSome

/-- The text of a decimal number without sign. -/
def decimalText? (cs : List Char) : Option (List Char × List Char) :=
  let exponent (cs : List Char) : List Char × List Char :=
    match cs with
    | e :: rest =>
      let (sign, ds) := match rest with
        | '+' :: ds => (['+'], ds)
        | '-' :: ds => (['-'], ds)
        | ds => ([], ds)
      let digits := ds.takeWhile Char.isDigit
      if (e = 'e' ∨ e = 'E') ∧ digits ≠ [] then (e :: sign ++ digits, ds.drop digits.length)
      else ([], cs)
    | [] => ([], [])
  let withExponent (text rest : List Char) : Option (List Char × List Char) :=
    let (more, rest) := exponent rest
    some (text ++ more, rest)
  let whole := match cs with
    | '0' :: _ => ['0']
    | cs => cs.takeWhile Char.isDigit
  let rest := cs.drop whole.length
  match rest with
  | '.' :: after =>
    let places := after.takeWhile Char.isDigit
    if whole = [] ∧ places = [] then none
    else withExponent (whole ++ '.' :: places) (after.drop places.length)
  | _ => if whole = [] then none else withExponent whole rest

/-- The text of a number without sign. -/
def numeralText? (cs : List Char) : Option (List Char × List Char) :=
  match cs with
  | '0' :: x :: rest =>
    let digits := rest.takeWhile isHexDigit
    if (x = 'x' ∨ x = 'X') ∧ digits ≠ [] then some ('0' :: x :: digits, rest.drop digits.length)
    else decimalText? cs
  | 'N' :: 'a' :: 'N' :: rest => some (['N', 'a', 'N'], rest)
  | _ =>
    let word := "Infinity".toList
    if word.isPrefixOf cs then some (word, cs.drop word.length) else decimalText? cs

/-- What a number says, if it says anything: words and base sixteen take no plus sign, and base
sixteen no minus sign. -/
def numeral? (text : List Char) : Option Value :=
  let (negative, body) := Decimal.sign text
  let isPlain := text = body
  match body with
  | 'N' :: _ => if isPlain ∨ negative then some .notANumber else none
  | 'I' :: _ => if isPlain ∨ negative then some (.infinite negative) else none
  | '0' :: x :: digits =>
    if x = 'x' ∨ x = 'X' then
      if isPlain then
        ((readDigits? 16 0 digits).filter (· < 1 <<< 32)).map fun n => .whole n
      else none
    else other? text
  | _ => other? text
where
  other? (text : List Char) : Option Value :=
    if text.any fun c => c = '.' || c = 'e' || c = 'E' then
      match (Decimal.ofChars? text).map Decimal.value with
      | some (.double x) => some (.double x)
      | _ => none
    else
      ((Decimal.readInt? text).bind within64?).map .whole

def number? (cs : List Char) : Option (Value × List Char) := do
  let (sign, rest) := match cs with
    | '+' :: rest => (['+'], rest)
    | '-' :: rest => (['-'], rest)
    | rest => ([], rest)
  let (text, rest) ← numeralText? rest
  return (← numeral? (sign ++ text), rest)

/-! ## Strings and names -/

/-- The character that is written by its number after `\u`; those that do not fit into four digits
take two numbers. -/
def numbered? (cs : List Char) : Option (Char × List Char) := do
  let (n, rest) ← takeDigits? 16 4 cs
  if 0xd800 ≤ n ∧ n < 0xdc00 then
    match rest with
    | '\\' :: 'u' :: rest =>
      let (m, rest) ← takeDigits? 16 4 rest
      if 0xdc00 ≤ m ∧ m < 0xe000 then
        return (← charOf? (0x10000 + (n - 0xd800) * 0x400 + (m - 0xdc00)), rest)
      else none
    | _ => none
  else return (← charOf? n, rest)

/-- What a backslash and the text after it spell, which is nothing at the end of a line. -/
def escape? : List Char → Option (List Char × List Char)
  | [] => none
  | '\r' :: '\n' :: cs => some ([], cs)
  | c :: cs =>
    match c with
    | 'b' => some (['\x08'], cs)
    | 'f' => some (['\x0c'], cs)
    | 'n' => some (['\n'], cs)
    | 'r' => some (['\r'], cs)
    | 't' => some (['\t'], cs)
    | 'v' => some (['\x0b'], cs)
    | '0' => some (['\x00'], cs)
    | 'x' => do
      let (n, rest) ← takeDigits? 16 2 cs
      return ([Char.ofNat n], rest)
    | 'u' => (numbered? cs).map fun (c, rest) => ([c], rest)
    | c => if isLineEnd c then some ([], cs) else if c.isDigit then none else some ([c], cs)

/-- The rest of a string after its opening quote; `acc` is the text so far, backwards. -/
def stringFrom (quote : Char) (acc : List Char) : (fuel : Nat) → Reader String
  | 0, _ => none
  | fuel + 1, cs =>
    match cs with
    | [] => none
    | '\\' :: rest =>
      (escape? rest).bind fun (text, rest) => stringFrom quote (text.reverse ++ acc) fuel rest
    | c :: rest =>
      if c = quote then some (String.ofList acc.reverse, rest)
      else if isLineEnd c then none
      else stringFrom quote (c :: acc) fuel rest

/-- The rest of a name; `acc` is the text so far, backwards. -/
def nameFrom (acc : List Char) : (fuel : Nat) → Reader String
  | 0, _ => none
  | fuel + 1, cs =>
    match cs with
    | '\\' :: 'u' :: rest => (numbered? rest).bind fun (c, rest) => nameFrom (c :: acc) fuel rest
    | c :: rest =>
      if c = '$' ∨ c = '_' ∨ Text.isNameStart c ∨ (acc ≠ [] ∧ Text.isNamePart c) then
        nameFrom (c :: acc) fuel rest
      else if acc = [] then none
      else some (String.ofList acc.reverse, cs)
    | [] => if acc = [] then none else some (String.ofList acc.reverse, [])

/-- The name of a member. -/
def key? : Reader String
  | '"' :: cs => stringFrom '"' [] (cs.length + 1) cs
  | '\x27' :: cs => stringFrom '\x27' [] (cs.length + 1) cs
  | cs => nameFrom [] (cs.length + 1) cs

/-! ## Values -/

mutual

def value? : (fuel : Nat) → Reader Value
  | 0, _ => none
  | fuel + 1, cs =>
    match cs with
    | '[' :: rest => do
      let (items, rest) ← items? fuel rest
      return (.ofItems items, rest)
    | '{' :: rest => do
      let (members, rest) ← members? fuel rest
      return (.table (Dict.ofList members), rest)
    | '"' :: rest => (stringFrom '"' [] (rest.length + 1) rest).map fun (s, rest) => (.text s, rest)
    | '\x27' :: rest =>
      (stringFrom '\x27' [] (rest.length + 1) rest).map fun (s, rest) => (.text s, rest)
    | 't' :: 'r' :: 'u' :: 'e' :: rest => some (.flag true, rest)
    | 'f' :: 'a' :: 'l' :: 's' :: 'e' :: rest => some (.flag false, rest)
    | 'n' :: 'u' :: 'l' :: 'l' :: rest => some (.nothing, rest)
    | cs => number? cs

/-- The items of a list after its opening bracket or a comma. -/
def items? : (fuel : Nat) → Reader (List Value)
  | 0, _ => none
  | fuel + 1, cs =>
    match skip cs with
    | ']' :: rest => some ([], rest)
    | rest => do
      let (v, rest) ← value? fuel rest
      match skip rest with
      | ',' :: rest =>
        let (vs, rest) ← items? fuel rest
        return (v :: vs, rest)
      | ']' :: rest => return ([v], rest)
      | _ => none

/-- The members of a table after its opening brace or a comma. -/
def members? : (fuel : Nat) → Reader (List (String × Value))
  | 0, _ => none
  | fuel + 1, cs =>
    match skip cs with
    | '}' :: rest => some ([], rest)
    | rest => do
      let (name, rest) ← key? rest
      match skip rest with
      | ':' :: rest =>
        let (v, rest) ← value? fuel (skip rest)
        match skip rest with
        | ',' :: rest =>
          let (ms, rest) ← members? fuel rest
          return ((name, v) :: ms, rest)
        | '}' :: rest => return ([(name, v)], rest)
        | _ => none
      | _ => none

end

/-- The members of the table that a text is. -/
def parse? (s : String) : Option (List (String × Value)) := do
  let cs := skip s.toList
  let (v, rest) ← value? (cs.length + 1) cs
  match v, skip rest with
  | .table members, [] => some members
  | _, _ => none

end EthRpc.Config.Json5
