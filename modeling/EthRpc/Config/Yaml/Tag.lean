-- SUMMARY: Tags, and the directives in front of documents.
import EthRpc.Config.Yaml.Cursor
import EthRpc.Digits

/-!
# Tags and directives

A tag has a handle, which stands for a longer text, and a suffix. It is written
with one or two exclamation marks, or in angle brackets as a whole. A directive
tells a version or what a handle stands for; directives of other names have no
meaning. In tags, percent signs spell bytes.
-/

namespace EthRpc.Config.Yaml

def isWordChar (c : Char) : Bool := c.isAlphanum || c = '_' || c = '-'

/-- Characters of tags in angle brackets and of texts for handles. -/
def isUriChar (c : Char) : Bool := c.isAlphanum || "-#;/?:@&=+$,_.!~*\x27()[]%".contains c

/-- Characters of other tags. -/
def isTagChar (c : Char) : Bool := isUriChar c && !isFlowMark c && c ≠ '!'

/-! ## Percent signs -/

def byte? : List Char → Option (Nat × List Char)
  | '%' :: cs => takeDigits? 16 2 cs
  | _ => none

/-- Read on in a character with `count` bytes to come. -/
def bytesFrom? (code : Nat) : (count : Nat) → List Char → Option (Nat × List Char)
  | 0, cs => some (code, cs)
  | count + 1, cs => do
    let (b, rest) ← byte? cs
    if 0x80 ≤ b ∧ b < 0xc0 then bytesFrom? (256 * code + b) count rest else none

/-- The character that some bytes spell: its number is that of the bytes, first byte first. -/
def percent? (cs : List Char) : Option (Char × List Char) := do
  let (b, rest) ← byte? cs
  let more ←
    if b < 0x80 then some 0
    else if b < 0xc0 then none
    else if b < 0xe0 then some 1
    else if b < 0xf0 then some 2
    else if b < 0xf8 then some 3
    else none
  let (code, rest) ← bytesFrom? b more rest
  return (← charOf? code, rest)

/-- Read characters of a class; `acc` is the text so far, backwards. -/
def uriText? (admits : Char → Bool) (acc : List Char) :
    (fuel : Nat) → List Char → Option (List Char × List Char)
  | 0, _ => none
  | fuel + 1, cs =>
    match cs with
    | [] => some (acc.reverse, [])
    | c :: rest =>
      if c = '%' then (percent? cs).bind fun (c, rest) => uriText? admits (c :: acc) fuel rest
      else if admits c then uriText? admits (c :: acc) fuel rest
      else some (acc.reverse, cs)

def uriChars? (admits : Char → Bool) (cs : List Char) : Option (List Char × List Char) :=
  uriText? admits [] (cs.length + 1) cs

/-! ## Tags -/

structure Tag where
  handle : String
  suffix : String
  deriving DecidableEq

/-- An exclamation mark, a word, and maybe another mark. -/
def handle? : List Char → Option (List Char × List Char)
  | '!' :: cs =>
    let word := cs.takeWhile isWordChar
    match cs.drop word.length with
    | '!' :: rest => some ('!' :: word ++ ['!'], rest)
    | rest => some ('!' :: word, rest)
  | _ => none

/-- Whether a text is a handle that has to be declared: it has a mark at both ends. -/
def isClosed (handle : List Char) : Bool :=
  2 ≤ handle.length && handle.head? = some '!' && handle.getLast? = some '!'

/-- The tag at the front of a text. -/
def tag? : List Char → Option (Tag × List Char)
  | '!' :: '<' :: cs => do
    let (suffix, rest) ← uriChars? isUriChar cs
    match rest with
    | '>' :: rest => return (⟨"", String.ofList suffix⟩, rest)
    | _ => none
  | cs => do
    let (handle, rest) ← handle? cs
    let (text, rest) ← uriChars? isTagChar rest
    if isClosed handle then
      if text = [] then none else return (⟨String.ofList handle, String.ofList text⟩, rest)
    else
      match handle.drop 1 ++ text with
      | [] => return (⟨"", "!"⟩, rest)
      | suffix => return (⟨"!", String.ofList suffix⟩, rest)

/-! ## Directives -/

inductive Directive where
  | version
  /-- What a handle stands for. -/
  | handle (name text : String)
  deriving DecidableEq

/-- At most nine digits. -/
def versionNumber? (cs : List Char) : Option (List Char) :=
  let count := (cs.takeWhile Char.isDigit).length
  if 1 ≤ count ∧ count ≤ 9 then some (cs.drop count) else none

/-- What a handle stands for begins with an exclamation mark or a character of a tag. -/
def handleText? : List Char → Option (List Char × List Char)
  | '!' :: cs => (uriChars? isUriChar cs).map fun (text, rest) => ('!' :: text, rest)
  | [] => none
  | c :: cs => if isTagChar c then uriChars? isUriChar (c :: cs) else none

/-- The directive that a percent sign announces, up to the blank after it. -/
def directive? (cs : List Char) : Option (Directive × List Char) := do
  let name := cs.takeWhile isWordChar
  let rest := cs.drop name.length
  if name = [] ∨ !endsWord rest then none
  else
    let body := rest.dropWhile isSpace
    match String.ofList name with
    | "YAML" =>
      match ← versionNumber? body with
      | '.' :: rest => return (.version, ← versionNumber? rest)
      | _ => none
    | "TAG" =>
      let (handle, rest) ← handle? body
      let (text, rest) ← handleText? (rest.dropWhile isSpace)
      if (handle = ['!'] ∨ isClosed handle) ∧ endsWord rest then
        return (.handle (String.ofList handle) (String.ofList text), rest)
      else none
    | _ => return (.handle "" "", rest.dropWhile (!isBreak ·))

end EthRpc.Config.Yaml
