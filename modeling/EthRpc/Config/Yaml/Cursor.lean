-- SUMMARY: A place in a text with its line and column, and what may be passed over.

/-!
# Cursors

A cursor is a place in a text. It knows its line and column, and whether only
blanks came before it on its line. Blanks are spaces and tabs; a comment runs from
a number sign to the end of its line. A text ends before its first null character.
-/

namespace EthRpc.Config.Yaml

/-! ## Characters -/

def isSpace (c : Char) : Bool := c = ' ' || c = '\t'

def isBreak (c : Char) : Bool := c = '\n' || c = '\r'

/-- Brackets, braces and commas, which have a meaning within brackets and braces. -/
def isFlowMark (c : Char) : Bool := c = ',' || c = '[' || c = ']' || c = '{' || c = '}'

/-- Whether nothing more of a line follows. -/
def endsLine : List Char → Bool
  | [] => true
  | c :: _ => isBreak c

/-- Whether nothing more of a word follows. -/
def endsWord : List Char → Bool
  | [] => true
  | c :: _ => isSpace c || isBreak c

/-! ## Places -/

structure Cursor where
  /-- The text from here on. -/
  rest : List Char
  index : Nat := 0
  line : Nat := 0
  column : Nat := 0
  /-- Whether only blanks came before on this line. -/
  isFresh : Bool := true

namespace Cursor

def start (s : String) : Cursor := { rest := s.toList.takeWhile (· ≠ '\x00') }

/-- Pass over blanks. -/
def skip (n : Nat) (c : Cursor) : Cursor :=
  { c with rest := c.rest.drop n, index := c.index + n, column := c.column + n }

/-- Pass over characters that are no blanks. -/
def step (n : Nat) (c : Cursor) : Cursor := { c.skip n with isFresh := c.isFresh && n = 0 }

/-- Pass over a line break. -/
def nextLine (c : Cursor) : Cursor :=
  match c.rest with
  | '\r' :: '\n' :: rest => { rest, index := c.index + 2, line := c.line + 1 }
  | rest => { rest := rest.drop 1, index := c.index + 1, line := c.line + 1 }

/-- Pass over the text up to some rest of it. -/
def stepTo (rest : List Char) (c : Cursor) : Cursor := c.step (c.rest.length - rest.length)

def toLineEnd (c : Cursor) : Cursor := c.step (c.rest.takeWhile (!isBreak ·)).length

/-- Pass over blanks and a comment, which has a blank before it. -/
def afterBlanks? (c : Cursor) : Option Cursor :=
  let n := (c.rest.takeWhile isSpace).length
  let d := c.skip n
  if d.rest.head? ≠ some '#' then some d
  else if n = 0 then none
  else some d.toLineEnd

/-- Whether a mark of three characters stands at the beginning of a line. -/
def isMark (mark : List Char) (c : Cursor) : Bool :=
  c.column = 0 && mark.isPrefixOf c.rest && endsWord (c.rest.drop mark.length)

/-- Whether a document begins here by its mark. -/
def startsDocument (c : Cursor) : Bool := c.isMark ['-', '-', '-']

/-- Whether a document ends here by its mark. -/
def endsDocument (c : Cursor) : Bool := c.isMark ['.', '.', '.']

/-- Pass over blanks, comments and line breaks, of which there are fewer than `fuel`. In front of
anything else no tab may stand before a column. -/
def toToken? (column : Int) : (fuel : Nat) → Cursor → Option Cursor
  | 0, _ => none
  | fuel + 1, c =>
    match c.rest with
    | [] => some c
    | first :: _ =>
      if first = '\t' ∧ c.isFresh ∧ c.column < column then do
        let c ← c.afterBlanks?
        if endsLine c.rest then toToken? column fuel c else none
      else if isSpace first then toToken? column fuel (c.skip 1)
      else if isBreak first then toToken? column fuel c.nextLine
      else if first = '#' then toToken? column fuel c.toLineEnd
      else some c

/-- Pass over spaces, comments and line breaks. -/
def afterSpaces : (fuel : Nat) → Cursor → Cursor
  | 0, c => c
  | fuel + 1, c =>
    match c.rest with
    | [] => c
    | first :: _ =>
      if first = ' ' then afterSpaces fuel (c.skip 1)
      else if isBreak first then afterSpaces fuel c.nextLine
      else if first = '#' then afterSpaces fuel c.toLineEnd
      else c

end Cursor

end EthRpc.Config.Yaml
