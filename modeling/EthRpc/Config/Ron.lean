-- SUMMARY: Configurations in a notation with structures, options, lists and maps.
import EthRpc.Config.Decimal

/-!
# RON

Structures have fields in parentheses, with or without a name before them; maps
are in braces and lists in brackets. Without field names the parentheses are a
list. An option is something or nothing, and a bare name is nothing too. Commas
may stand at the end, and comments anywhere, of which those in blocks nest.
-/

namespace EthRpc.Config.Ron

/-- Take something off the front of a text. -/
abbrev Reader (α : Type) := List Char → Option (α × List Char)

/-! ## Blanks and comments -/

def isSpace (c : Char) : Bool := c = ' ' || c = '\n' || c = '\t' || c = '\r'

/-- The text after a comment that is `level` comments deep. -/
def afterBlock? (level : Nat) : List Char → Option (List Char)
  | [] => none
  | '/' :: '*' :: cs => afterBlock? (level + 1) cs
  | '*' :: '/' :: cs => if level ≤ 1 then some cs else afterBlock? (level - 1) cs
  | _ :: cs => afterBlock? level cs

/-- Skip blanks and comments, of which there are no more than `fuel`. -/
def skipFrom? : (fuel : Nat) → List Char → Option (List Char)
  | 0, cs => some cs
  | fuel + 1, cs =>
    match cs.dropWhile isSpace with
    | '/' :: '/' :: rest => skipFrom? fuel (rest.dropWhile (· ≠ '\n'))
    | '/' :: '*' :: rest => (afterBlock? 1 rest).bind (skipFrom? fuel)
    | '/' :: _ => none
    | rest => some rest

def skip? (cs : List Char) : Option (List Char) := skipFrom? (cs.length + 1) cs

/-- Skip a comma and what is around it, and tell whether there was one. -/
def comma? (cs : List Char) : Option (Bool × List Char) := do
  match ← skip? cs with
  | ',' :: rest => return (true, ← skip? rest)
  | rest => return (false, rest)

/-! ## Names -/

def isNameStart (c : Char) : Bool := c.isAlpha || c = '_'

def isNameChar (c : Char) : Bool := c.isAlphanum || c = '_'

/-- What may be in a name that is marked as such. -/
def isRawChar (c : Char) : Bool := isNameChar c || c = '.' || c = '+' || c = '-'

/-- A name, but not the beginning of a raw string. -/
def name? (cs : List Char) : Option (String × List Char) :=
  let plain : Option (String × List Char) :=
    let name := cs.takeWhile isNameChar
    if (cs.drop name.length).head?.any isRawChar then none
    else some (String.ofList name, cs.drop name.length)
  match cs with
  | ['r'] => none
  | 'r' :: '"' :: _ => none
  | 'r' :: '#' :: rest =>
    let name := rest.takeWhile isRawChar
    if name = [] then none else some (String.ofList name, rest.drop name.length)
  | c :: _ => if isNameStart c then plain else none
  | [] => none

/-- The text after a word that does not go on. -/
def word? (word : String) (cs : List Char) : Option (List Char) :=
  let w := word.toList
  let rest := cs.drop w.length
  if w.isPrefixOf cs ∧ ¬rest.head?.any isNameChar then some rest else none

/-! ## Numbers -/

def isIntChar (c : Char) : Bool := (digitIn? 16 c).isSome || c = '_'

def isFloatChar (c : Char) : Bool :=
  c.isDigit || c = 'e' || c = 'E' || c = '.' || c = '+' || c = '-' || c = '_'

/-- Digits in a base, with underscores after the first of them. -/
def digits? (base : Nat) (cs : List Char) : Option (Nat × List Char) :=
  let text := cs.takeWhile isIntChar
  match text with
  | [] | '_' :: _ => none
  | _ => (readDigits? base 0 (text.filter (· ≠ '_'))).map (·, cs.drop text.length)

/-- A whole number; with a sign it has 63 bits, without one 64. -/
def whole? (cs : List Char) : Option (Value × List Char) := do
  let (negative, body) := Decimal.sign cs
  let (n, rest) ← match body with
    | '0' :: 'x' :: ds => digits? 16 ds
    | '0' :: 'b' :: ds => digits? 2 ds
    | '0' :: 'o' :: ds => digits? 8 ds
    | ds => digits? 10 ds
  if negative then if n ≤ 1 <<< 63 then some (.whole (-n), rest) else none
  else if n < (if body = cs then 1 <<< 64 else 1 <<< 63) then some (.ofNat n, rest)
  else none

/-- A number with a fraction or an exponent. -/
def fraction? (cs : List Char) : Option (Value × List Char) :=
  let words := ["inf", "+inf", "-inf", "NaN", "+NaN", "-NaN"]
  match words.findSome? fun w => (word? w cs).map fun rest => (w, rest) with
  | some (w, rest) => (double? w.toList).map (·, rest)
  | none =>
    let text := cs.takeWhile isFloatChar
    if '_' ∈ text then none
    else (Decimal.ofChars? text).map fun d => (d.value, cs.drop text.length)

def number? (cs : List Char) : Option (Value × List Char) :=
  let body := match cs with
    | '+' :: rest | '-' :: rest => rest
    | rest => rest
  if (body.takeWhile isIntChar).length < (body.takeWhile isFloatChar).length then fraction? cs
  else (whole? cs) <|> (fraction? cs)

/-! ## Strings and characters -/

/-- What a backslash and the text after it spell. -/
def escape? : List Char → Option (Char × List Char)
  | [] => none
  | 'x' :: a :: b :: cs => do return (Char.ofNat (← readDigits? 16 0 [a, b]), cs)
  | 'u' :: '{' :: cs =>
    let digits := cs.takeWhile (· ≠ '}')
    if digits = [] ∨ 6 < digits.length then none
    else do
      match cs.drop digits.length with
      | '}' :: rest => return (← charOf? (← readDigits? 16 0 digits), rest)
      | _ => none
  | c :: cs =>
    match c with
    | '\x27' | '"' | '\\' => some (c, cs)
    | 'n' => some ('\n', cs)
    | 'r' => some ('\r', cs)
    | 't' => some ('\t', cs)
    | '0' => some ('\x00', cs)
    | _ => none

/-- The rest of a string after its opening quote; `acc` is the text so far, backwards. -/
def stringFrom (acc : List Char) : (fuel : Nat) → Reader String
  | 0, _ => none
  | fuel + 1, cs =>
    match cs with
    | [] => none
    | '"' :: rest => some (String.ofList acc.reverse, rest)
    | '\\' :: rest => (escape? rest).bind fun (c, rest) => stringFrom (c :: acc) fuel rest
    | c :: rest => stringFrom (c :: acc) fuel rest

/-- The rest of a raw string up to its closing mark; `acc` is the text so far, backwards. -/
def rawFrom (mark acc : List Char) : Reader String
  | [] => none
  | c :: cs =>
    if mark.isPrefixOf (c :: cs) then some (String.ofList acc.reverse, (c :: cs).drop mark.length)
    else rawFrom mark (c :: acc) cs

/-- A string without escapes, between as many hash signs as one likes. -/
def rawString? (cs : List Char) : Option (String × List Char) :=
  let hashes := cs.takeWhile (· = '#')
  match cs.drop hashes.length with
  | '"' :: rest => rawFrom ('"' :: hashes) [] rest
  | _ => none

/-- The rest of a character after its opening quote. -/
def char? (cs : List Char) : Option (Char × List Char) := do
  let (c, rest) ← match cs with
    | '\\' :: rest => escape? rest
    | c :: rest => if c = '\x27' then none else some (c, rest)
    | [] => none
  match rest with
  | '\x27' :: rest => some (c, rest)
  | _ => none

/-! ## Values -/

/-- Parentheses have the fields of a structure in them, and not just a list. -/
def hasFields (cs : List Char) : Bool :=
  match (name? cs).bind fun (_, rest) => skip? rest with
  | some (':' :: _) => true
  | _ => false

/-- A value that lies too deep in others is none. -/
def depthBound : Nat := 128

/-- The keys of a map are texts or single characters. -/
inductive Item where
  | value (v : Value)
  /-- An option with something in it. -/
  | present (v : Value)

def Item.contents : Item → Value
  | value v | present v => v

def Item.key? : Item → Option String
  | value (.text s) => some s
  | _ => none

mutual

/-- A value that may have `depth` more in each other. -/
def item? : (fuel depth : Nat) → Reader Item
  | 0, _, _ => none
  | fuel + 1, depth, cs =>
    let constant (v : Value) (rest : List Char) : Option (Item × List Char) := some (.value v, rest)
    match word? "true" cs, word? "false" cs, word? "None" cs, word? "Some" cs with
    | some rest, _, _, _ => constant (.flag true) rest
    | _, some rest, _, _ => constant (.flag false) rest
    | _, _, some rest, _ => constant .nothing rest
    | _, _, _, some rest => do
      match ← skip? rest with
      | '(' :: rest =>
        let (v, rest) ← inner? fuel depth (← skip? rest)
        match ← comma? rest with
        | (_, ')' :: rest) => return (.present v.contents, rest)
        | _ => none
      | _ => none
    | none, none, none, none =>
      match cs with
      | '(' :: ')' :: rest => constant .nothing rest
      | _ =>
        let special := ["inf", "-inf", "NaN"].findSome? fun w => (word? w cs).map (w, ·)
        match special, name? cs with
        | some (w, rest), _ => do return (.value (← double? w.toList), rest)
        | none, some (_, rest) => do
          match ← skip? rest with
          | '(' :: rest => parentheses? fuel depth rest
          | rest => constant .nothing rest
        | none, none =>
          match cs with
          | '(' :: rest => parentheses? fuel depth rest
          | '[' :: rest => do
            let (vs, rest) ← items? fuel depth ']' true rest
            return (.value (.ofItems vs), rest)
          | '{' :: rest => do
            let (ms, rest) ← entries? fuel depth true rest
            return (.value (.table (Dict.ofList ms)), rest)
          | '"' :: rest =>
            (stringFrom [] (rest.length + 1) rest).map fun (s, rest) => (.value (.text s), rest)
          | 'r' :: rest => (rawString? rest).map fun (s, rest) => (.value (.text s), rest)
          | '\x27' :: rest =>
            (char? rest).map fun (c, rest) => (.value (.text (String.singleton c)), rest)
          | '.' :: _ => (fraction? cs).map fun (v, rest) => (.value v, rest)
          | c :: _ =>
            if c.isDigit ∨ c = '+' ∨ c = '-' then
              (number? cs).map fun (v, rest) => (.value v, rest)
            else none
          | [] => none

/-- A value within another. -/
def inner? : (fuel depth : Nat) → Reader Item
  | fuel + 1, depth + 1, cs => item? fuel depth cs
  | _, _, _ => none

/-- A structure or a list after its opening parenthesis. -/
def parentheses? : (fuel depth : Nat) → Reader Item
  | 0, _, _ => none
  | fuel + 1, depth, cs => do
    let cs ← skip? cs
    if hasFields cs then
      let (ms, rest) ← fields? fuel depth true cs
      return (.value (.table (Dict.ofList ms)), rest)
    else
      let (vs, rest) ← items? fuel depth ')' true cs
      return (.value (.ofItems vs), rest)

/-- The items of a list up to what closes it; `hadComma` tells whether one may follow. -/
def items? : (fuel depth : Nat) → (closing : Char) → (hadComma : Bool) → Reader (List Value)
  | 0, _, _, _, _ => none
  | fuel + 1, depth, closing, hadComma, cs => do
    match ← skip? cs with
    | [] => none
    | c :: rest =>
      if c = closing then some ([], rest)
      else if !hadComma then none
      else
        let (v, rest) ← inner? fuel depth (c :: rest)
        let (hadComma, rest) ← comma? rest
        let (vs, rest) ← items? fuel depth closing hadComma rest
        return (v.contents :: vs, rest)

/-- The fields of a structure up to its closing parenthesis. -/
def fields? : (fuel depth : Nat) → (hadComma : Bool) → Reader (List (String × Value))
  | 0, _, _, _ => none
  | fuel + 1, depth, hadComma, cs => do
    match ← skip? cs with
    | [] => none
    | ')' :: rest => some ([], rest)
    | cs =>
      if !hadComma ∨ depth = 0 then none
      else
        let (name, rest) ← name? cs
        match ← skip? rest with
        | ':' :: rest =>
          let (v, rest) ← inner? fuel depth (← skip? rest)
          let (hadComma, rest) ← comma? rest
          let (ms, rest) ← fields? fuel depth hadComma rest
          return ((name, v.contents) :: ms, rest)
        | _ => none

/-- The entries of a map up to its closing brace. -/
def entries? : (fuel depth : Nat) → (hadComma : Bool) → Reader (List (String × Value))
  | 0, _, _, _ => none
  | fuel + 1, depth, hadComma, cs => do
    match ← skip? cs with
    | [] => none
    | '}' :: rest => some ([], rest)
    | cs =>
      if !hadComma then none
      else
        let (k, rest) ← inner? fuel depth cs
        match ← skip? rest with
        | ':' :: rest =>
          let (v, rest) ← inner? fuel depth (← skip? rest)
          let (hadComma, rest) ← comma? rest
          let (ms, rest) ← entries? fuel depth hadComma rest
          return ((← k.key?, v.contents) :: ms, rest)
        | _ => none

end

/-! ## Texts -/

/-- Liberties that a text may take. -/
def liberties : List String := ["unwrap_newtypes", "implicit_some", "unwrap_variant_newtypes"]

/-- The text after names of liberties. -/
def afterLiberties? : (fuel : Nat) → List Char → Option (List Char)
  | 0, _ => none
  | fuel + 1, cs => do
    let (name, rest) ← name? cs
    let (hadComma, rest) ← comma? rest
    let goesOn := rest.head?.any isNameChar
    if !liberties.contains name ∨ (goesOn ∧ !hadComma) then none
    else if goesOn then afterLiberties? fuel rest
    else some rest

/-- The text after some texts with blanks before them. -/
def afterAll? : List String → List Char → Option (List Char)
  | [], cs => some cs
  | t :: ts, cs => do
    let cs ← skip? cs
    if t.toList.isPrefixOf cs then afterAll? ts (cs.drop t.length) else none

/-- Skip announcements of liberties at the front of a text. -/
def skipAnnouncements? : (fuel : Nat) → List Char → Option (List Char)
  | 0, _ => none
  | fuel + 1, cs => do
    let cs ← skip? cs
    if cs.head? = some '#' then
      let names ← skip? (← afterAll? ["#", "!", "[", "enable", "("] cs)
      let rest ← afterAll? [")", "]"] (← afterLiberties? (names.length + 1) names)
      skipAnnouncements? fuel rest
    else some cs

/-- The entries of the structure or map that a text is. -/
def parse? (s : String) : Option (List (String × Value)) := do
  let cs := s.toList
  let cs ← skipAnnouncements? (cs.length + 1) cs
  let (i, rest) ← item? (3 * cs.length + 3) depthBound cs
  match i.contents, ← skip? rest with
  | .table members, [] => some members
  | _, _ => none

end EthRpc.Config.Ron
