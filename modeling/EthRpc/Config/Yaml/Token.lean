-- SUMMARY: The tokens of a text, in which indentation has become brackets.
import EthRpc.Config.Yaml.Scalar
import EthRpc.Config.Yaml.Tag

/-!
# Tokens

Indentation opens and closes collections as brackets do, and gets tokens of its
own. That a text is a key shows only when its colon comes; so each text that may
become a key leaves room for the tokens that then go in front of it. Outside of
brackets a key and its colon are on one line, at most 1024 characters apart.
-/

namespace EthRpc.Config.Yaml

inductive Token where
  | directive (d : Directive)
  | documentStart
  | documentEnd
  /-- A list by indentation begins. -/
  | blockList
  /-- A table by indentation begins. -/
  | blockTable
  /-- A list or table by indentation ends. -/
  | blockEnd
  /-- A hyphen. -/
  | item
  | key
  | value
  | listOpen
  | listClose
  | tableOpen
  | tableClose
  | comma
  | anchor (name : String)
  /-- What an anchor stands for. -/
  | reference (name : String)
  | tag (t : Tag)
  | scalar (isPlain : Bool) (text : String)
  deriving DecidableEq

/-- A column from which on text belongs to a collection by indentation. -/
structure Level where
  column : Int
  /-- Whether the collection has begun, or else may only begin here. -/
  hasBegun : Bool

/-- A place where a key may turn out to begin. -/
structure PossibleKey where
  /-- The position of the room for its tokens. -/
  room : Nat
  start : Cursor
  /-- Whether there has to be a key. -/
  isRequired : Bool

/-- What is around a place within brackets. -/
structure Enclosure where
  isTable : Bool
  /-- The key that the brackets may be part of. -/
  possibleKey : Option PossibleKey

structure Reading where
  cursor : Cursor
  /-- The tokens so far, with room for more. -/
  tokens : Array (List Token) := #[]
  /-- Collections by indentation, the innermost one first. -/
  levels : List Level := []
  /-- Collections in brackets, the innermost one first. -/
  enclosures : List Enclosure := []
  /-- Whether a key may begin here. -/
  admitsKey : Bool := true
  possibleKey : Option PossibleKey := none
  /-- Where a colon may follow without a blank after it. -/
  adjacent : Nat := 0

/-- How many collections in brackets there may be in each other. -/
def maxEnclosures : Nat := 255

/-- How far from each other a key and its colon may be. -/
def maxKeyLength : Nat := 1024

namespace Reading

/-! ## Levels -/

def inFlow (r : Reading) : Bool := !r.enclosures.isEmpty

/-- The column of the innermost level. -/
def indent (r : Reading) : Int :=
  match r.levels with
  | [] => -1
  | level :: _ => level.column

def push (t : Token) (r : Reading) : Reading := { r with tokens := r.tokens.push [t] }

/-- End the collections that go on only after a column. -/
def closeAfter (column : Int) (r : Reading) : Reading :=
  if r.inFlow then r
  else
    let closed := r.levels.takeWhile (column < ·.column)
    let ends := closed.filterMap fun level => if level.hasBegun then some [.blockEnd] else none
    { r with levels := r.levels.drop closed.length, tokens := r.tokens ++ ends.toArray }

/-- Forget levels where nothing has begun. -/
def settle (r : Reading) : Reading := { r with levels := r.levels.dropWhile (!·.hasBegun) }

/-- Let a collection begin at a column, and tell whether it does: it may have begun before. -/
def openAt (column : Int) (r : Reading) : Reading × Bool :=
  if r.inFlow then (r, false)
  else
    let levels :=
      match r.levels with
      | level :: rest => if level.column ≤ column ∧ !level.hasBegun then rest else r.levels
      | [] => []
    let r := { r with levels }
    if r.indent < column then ({ r with levels := ⟨column, true⟩ :: levels }, true) else (r, false)

/-- Let a collection begin here, by a token. -/
def openHere (t : Token) (r : Reading) : Reading :=
  match r.openAt r.cursor.column with
  | (r, true) => r.push t
  | (r, false) => r

/-- Let what follows belong to the innermost collection only if it is further to the right. -/
def deepen (r : Reading) : Reading :=
  match r.levels with
  | level :: _ =>
    if !r.inFlow ∧ level.hasBegun then { r with levels := ⟨level.column + 1, false⟩ :: r.levels }
    else r
  | [] => r

/-! ## Possible keys -/

/-- A key may begin here, if one is admitted. -/
def markKey (r : Reading) : Reading :=
  if r.admitsKey then
    let isRequired := !r.inFlow && r.levels.head?.any fun level =>
      level.hasBegun && (r.cursor.column : Int) = level.column
    { r with
      possibleKey := some ⟨r.tokens.size, r.cursor, isRequired⟩
      tokens := r.tokens.push [] }
  else r

/-- A text, which may be a key, but is followed by none. -/
def markText (r : Reading) : Reading := { r.markKey with admitsKey := false }

/-- No key began. -/
def dropKey? (r : Reading) : Option Reading :=
  match r.possibleKey with
  | some key => if key.isRequired then none else some { r with possibleKey := none }
  | none => some r

/-- No key began if it should have ended by now. -/
def expireKey? (r : Reading) : Option Reading :=
  match r.possibleKey with
  | some key =>
    let isFar := key.start.index + maxKeyLength < r.cursor.index
    if !r.inFlow ∧ (key.start.line < r.cursor.line ∨ isFar) then r.dropKey?
    else some r
  | none => some r

/-! ## Reading on -/

/-- Read on from a cursor; outside of brackets a new line admits keys. -/
def goTo (c : Cursor) (r : Reading) : Reading :=
  { r with cursor := c, admitsKey := r.admitsKey || (!r.inFlow && r.cursor.line < c.line) }

/-- Pass over what stands before the next token. -/
def toToken? (r : Reading) : Option Reading := do
  let c ← r.cursor.toToken? r.indent (r.cursor.rest.length + 1)
  return r.goTo c

/-- A single character and the blanks after it. -/
def mark? (t : Token) (r : Reading) : Option Reading := do
  let c ← (r.cursor.step 1).afterBlanks?
  return { r with cursor := c }.push t

def readDirective? (r : Reading) : Option Reading := do
  let r ← (r.closeAfter (-1)).dropKey?
  let c := r.cursor.step 1
  let (d, rest) ← directive? c.rest
  let c ← (c.stepTo rest).afterBlanks?
  if endsLine c.rest then
    return { r with cursor := c.nextLine, admitsKey := false }.push (.directive d)
  else none

def readDocumentMark? (t : Token) (r : Reading) : Option Reading := do
  let r ← (r.closeAfter (-1)).dropKey?
  return { r with cursor := r.cursor.step 3, admitsKey := false }.push t

/-- Nothing but a comment follows the mark for the end of a document. -/
def readDocumentEnd? (r : Reading) : Option Reading := do
  let r ← r.readDocumentMark? .documentEnd
  let c ← r.cursor.afterBlanks?
  if endsLine c.rest then return { r with cursor := c } else none

def readOpen? (isTable : Bool) (r : Reading) : Option Reading :=
  let r := r.markKey.deepen
  if r.enclosures.length < maxEnclosures then
    { r with
      enclosures := ⟨isTable, r.possibleKey⟩ :: r.enclosures
      possibleKey := none
      admitsKey := true }.mark? (if isTable then .tableOpen else .listOpen)
  else none

def readClose? (isTable : Bool) (r : Reading) : Option Reading := do
  let r ← r.dropKey?
  let r ← { r with
    enclosures := r.enclosures.drop 1
    possibleKey := r.enclosures.head?.bind (·.possibleKey)
    admitsKey := false }.mark? (if isTable then .tableClose else .listClose)
  return if r.inFlow then { r with adjacent := r.cursor.index } else r

def readComma? (r : Reading) : Option Reading :=
  r.dropKey?.bind fun r => { r with admitsKey := true }.mark? .comma

/-- A hyphen, which is not in place in brackets. -/
def readItem? (r : Reading) : Option Reading :=
  if r.inFlow ∨ !r.admitsKey then none
  else do
    let r := r.openHere .blockList
    let c := r.cursor.step 1
    let hasTab := (c.rest.takeWhile isSpace).contains '\t'
    let c ← c.afterBlanks?
    if hasTab ∧ c.rest.head? = some '-' ∧ endsWord (c.rest.drop 1) then none
    else
      let r := { r with cursor := c }
      let r := if c.rest.head?.any fun c => isBreak c || isFlowMark c then r.deepen else r
      let r ← r.dropKey?
      return { r with admitsKey := true }.push .item

/-- A question mark in front of a key of any kind. -/
def readKey? (r : Reading) : Option Reading :=
  if !r.inFlow ∧ !r.admitsKey then none
  else do
    let r ← (r.openHere .blockTable).dropKey?
    let c := r.cursor.step 1
    if c.rest = [] ∨ c.rest.head? = some '\t' then none
    else
      let c := c.afterSpaces (c.rest.length + 1)
      if c.rest.head? = some '\t' then none
      else return { r with cursor := c, admitsKey := !r.inFlow }.push .key

/-- Where the value after a colon begins: a tab does not do in front of a word. -/
def afterColon? (c : Cursor) : Option Cursor :=
  if c.rest.head? = some '\t' then do
    let hasSpace := (c.rest.takeWhile isSpace).contains ' '
    let d ← c.afterBlanks?
    if !hasSpace ∧ d.rest.head?.any isWordChar then none else return d
  else some c

/-- A colon after a key that it makes one: tokens go in front of the key. -/
def confirmKey? (key : PossibleKey) (r : Reading) : Option Reading :=
  if r.enclosures.head?.any (!·.isTable) ∧ key.start.line < r.cursor.line then none
  else
    let (r, opens) := r.openAt key.start.column
    let marks := if opens then [.blockTable, .key] else [.key]
    some { r.deepen with
      tokens := r.tokens.modify key.room fun _ => marks
      possibleKey := none
      admitsKey := false }

def readValue? (r : Reading) : Option Reading := do
  let c ← afterColon? (r.cursor.step 1)
  let r ←
    match r.possibleKey with
    | some key => r.confirmKey? key
    | none =>
      if !r.inFlow ∧ !r.admitsKey then none
      else some { (r.openHere .blockTable).deepen with admitsKey := !r.inFlow }
  return { r with cursor := c }.push .value

def isAnchorChar (c : Char) : Bool := !endsWord [c] && !isFlowMark c && c ≠ '\ufeff'

def readAnchor? (token : String → Token) (r : Reading) : Option Reading :=
  let c := r.cursor.step 1
  match c.rest.takeWhile isAnchorChar with
  | [] => none
  | name => some ({ r.markText with cursor := c.step name.length }.push (token (String.ofList name)))

def readTag? (r : Reading) : Option Reading := do
  let (t, rest) ← tag? r.cursor.rest
  if endsWord rest ∨ (r.inFlow ∧ rest.head? = some ',') then
    return { r.markText with cursor := r.cursor.stepTo rest }.push (.tag t)
  else none

def readQuoted? (r : Reading) : Option Reading := do
  let (text, c) ← quoted? r.inFlow r.indent r.cursor
  let r ← { r.markText with cursor := c }.toToken?
  return { r with adjacent := r.cursor.index }.push (.scalar false text)

def readPlain? (r : Reading) : Option Reading := do
  let r := r.markText.settle
  let (text, c) ← plain? r.inFlow (r.indent + 1) r.cursor
  return { r with cursor := c, admitsKey := c.isFresh }.push (.scalar true text)

def readBlock? (isLiteral : Bool) (r : Reading) : Option Reading := do
  let r := r.markKey.settle
  let (text, c) ← block? isLiteral r.indent r.cursor
  return { r with cursor := c, admitsKey := true }.push (.scalar false text)

/-- Whether a colon is one between a key and a value. -/
def isColon (r : Reading) (rest : List Char) : Bool :=
  endsWord rest || (r.inFlow && (rest.head?.any isFlowMark || r.cursor.index = r.adjacent))

/-- Read the token that begins here. -/
def readToken? (r : Reading) : Option Reading :=
  if r.cursor.column = 0 ∧ r.cursor.rest.head? = some '%' then r.readDirective?
  else if r.cursor.startsDocument then r.readDocumentMark? .documentStart
  else if r.cursor.endsDocument then r.readDocumentEnd?
  else if r.cursor.column < r.indent then none
  else
    match r.cursor.rest with
    | [] => some r
    | first :: rest =>
      match first with
      | '[' => r.readOpen? false
      | '{' => r.readOpen? true
      | ']' => r.readClose? false
      | '}' => r.readClose? true
      | ',' => r.readComma?
      | '-' => if endsWord rest then r.readItem? else r.readPlain?
      | '?' => if endsWord rest then r.readKey? else r.readPlain?
      | ':' => if r.isColon rest then r.readValue? else r.readPlain?
      | '*' => r.readAnchor? .reference
      | '&' => r.readAnchor? .anchor
      | '!' => r.readTag?
      | '|' => if r.inFlow then r.readPlain? else r.readBlock? true
      | '>' => if r.inFlow then r.readPlain? else r.readBlock? false
      | '\x27' | '"' => r.readQuoted?
      | '%' | '@' | '\x60' => none
      | _ => r.readPlain?

/-- Read all tokens, of which there are fewer than `fuel`. -/
def readAll? : (fuel : Nat) → Reading → Option Reading
  | 0, _ => none
  | fuel + 1, r => do
    let r ← (← r.toToken?).expireKey?
    let r := r.closeAfter r.cursor.column
    if r.cursor.rest = [] then (r.closeAfter (-1)).dropKey?
    else readAll? fuel (← r.readToken?)

end Reading

/-- The tokens of a text. -/
def tokens? (s : String) : Option (List Token) :=
  let c := Cursor.start s
  (Reading.readAll? (c.rest.length + 1) { cursor := c }).map fun r => r.tokens.toList.flatten

end EthRpc.Config.Yaml
