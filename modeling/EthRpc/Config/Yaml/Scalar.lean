-- SUMMARY: Texts in quotes, without quotes, and in blocks of lines.
import EthRpc.Config.Yaml.Cursor
import EthRpc.Digits

/-!
# Scalars

A scalar is a text in quotes of either kind, a plain text, or a block of lines.
Where a text goes on over lines, one line break counts as a space, and of more
than one the first does not count. A backslash spells other characters in double
quotes. How far a text is indented is measured against the collection around it.
-/

namespace EthRpc.Config.Yaml

/-! ## Gaps between words -/

/-- Blanks and line breaks between two words. -/
structure Gap where
  /-- The blanks before the first line break. -/
  blanks : List Char := []
  breaks : Nat := 0
  /-- Whether a backslash ended the line before. -/
  isEscaped : Bool := false

/-- What a gap counts as. -/
def Gap.text (g : Gap) : List Char :=
  if g.isEscaped then List.replicate g.breaks '\n'
  else
    match g.breaks with
    | 0 => g.blanks
    | 1 => [' ']
    | n + 2 => List.replicate (n + 1) '\n'

/-- Read on in a gap. A tab before a column is in place in an empty line at most, and in quotes not
even there. -/
def Gap.readFrom? (inQuotes : Bool) (column : Int) (g : Gap) :
    (fuel : Nat) → Cursor → Option (Gap × Cursor)
  | 0, _ => none
  | fuel + 1, c =>
    match c.rest with
    | [] => some (g, c)
    | first :: _ =>
      if isBreak first then
        readFrom? inQuotes column { g with breaks := g.breaks + 1 } fuel c.nextLine
      else if !isSpace first then some (g, c)
      else if g.breaks = 0 ∧ !g.isEscaped then
        let blanks := c.rest.takeWhile isSpace
        readFrom? inQuotes column { g with blanks } fuel (c.skip blanks.length)
      else if first = '\t' ∧ c.column < column then
        if inQuotes then none
        else do
          let c ← c.afterBlanks?
          if endsLine c.rest then readFrom? inQuotes column g fuel c else none
      else readFrom? inQuotes column g fuel (c.skip 1)

/-! ## Texts in quotes -/

/-- What a backslash and the text after it spell, and how long both are. -/
def escape? : List Char → Option (Char × Nat)
  | [] => none
  | c :: cs =>
    let short (c : Char) : Option (Char × Nat) := some (c, 2)
    let numbered (count : Nat) : Option (Char × Nat) := do
      let (n, _) ← takeDigits? 16 count cs
      return (← charOf? n, count + 2)
    match c with
    | '0' => short '\x00'
    | 'a' => short '\x07'
    | 'b' => short '\x08'
    | 't' | '\t' => short '\t'
    | 'n' => short '\n'
    | 'v' => short '\x0b'
    | 'f' => short '\x0c'
    | 'r' => short '\r'
    | 'e' => short '\x1b'
    | ' ' | '"' | '/' | '\\' => short c
    | 'N' => short '\x85'
    | '_' => short '\xa0'
    | 'L' => short '\u2028'
    | 'P' => short '\u2029'
    | 'x' => numbered 2
    | 'u' => numbered 4
    | 'U' => numbered 8
    | _ => none

/-- A word in quotes, and whether a backslash ends its line; `acc` is the word so far, backwards. -/
def quotedWord? (quote : Char) (acc : List Char) :
    (fuel : Nat) → Cursor → Option (List Char × Bool × Cursor)
  | 0, _ => none
  | fuel + 1, c =>
    if endsWord c.rest then some (acc.reverse, false, c)
    else
      match c.rest with
      | [] => some (acc.reverse, false, c)
      | first :: rest =>
        if first = quote then
          if quote = '\x27' ∧ rest.head? = some '\x27' then
            quotedWord? quote ('\x27' :: acc) fuel (c.step 2)
          else some (acc.reverse, false, c)
        else if first = '\\' ∧ quote = '"' then
          if rest ≠ [] ∧ endsLine rest then some (acc.reverse, true, (c.step 1).nextLine)
          else
            (escape? rest).bind fun (spelt, n) => quotedWord? quote (spelt :: acc) fuel (c.step n)
        else quotedWord? quote (first :: acc) fuel (c.step 1)

/-- The rest of a text in quotes, of which `acc` is read. -/
def quotedFrom? (quote : Char) (indent : Int) (acc : List Char) :
    (fuel : Nat) → Cursor → Option (List Char × Cursor)
  | 0, _ => none
  | fuel + 1, c =>
    if c.rest = [] ∨ c.startsDocument ∨ c.endsDocument ∨ c.column < indent then none
    else do
      let (word, isEscaped, c) ← quotedWord? quote [] (c.rest.length + 1) c
      if c.rest.head? = some quote then return (acc ++ word, c.step 1)
      else
        let (gap, c) ← Gap.readFrom? true indent { isEscaped } (c.rest.length + 1) c
        quotedFrom? quote indent (acc ++ word ++ gap.text) fuel c

/-- Whether a text in quotes may end before some text. -/
def mayEndBefore (inFlow isOneLine : Bool) (rest : List Char) : Bool :=
  endsLine rest ||
    match rest with
    | ':' :: _ => inFlow || isOneLine
    | ',' :: _ | '}' :: _ | ']' :: _ => inFlow
    | _ => false

/-- The text in the quotes that open here. -/
def quoted? (inFlow : Bool) (indent : Int) (c : Cursor) : Option (String × Cursor) := do
  let (text, d) ← quotedFrom? (← c.rest.head?) indent [] (c.rest.length + 1) (c.step 1)
  let d ← d.afterBlanks?
  if mayEndBefore inFlow (c.line = d.line) d.rest then return (String.ofList text, d) else none

/-! ## Plain texts -/

/-- The word at the front of a text: a colon ends it where it ends a name. -/
def plainWord (inFlow : Bool) : List Char → List Char
  | [] => []
  | c :: cs =>
    if endsWord [c] || (inFlow && isFlowMark c)
      || (c = ':' && (endsWord cs || (inFlow && cs.head?.any isFlowMark))) then []
    else c :: plainWord inFlow cs

/-- The rest of a plain text, of which `acc` is read, and after it `gap` if anything follows. -/
def plainFrom? (inFlow : Bool) (column : Int) (acc gap : List Char) :
    (fuel : Nat) → Cursor → Option (List Char × Cursor)
  | 0, _ => none
  | fuel + 1, c =>
    if c.startsDocument ∨ c.endsDocument ∨ c.rest.head? = some '#' then some (acc, c)
    else if inFlow ∧ c.rest.head? = some '-' ∧ (c.rest.drop 1).head?.any isFlowMark then none
    else
      let word := plainWord inFlow c.rest
      let acc := if word = [] then acc else acc ++ gap ++ word
      let c := c.step word.length
      if c.rest = [] ∨ !endsWord c.rest then some (acc, c)
      else do
        let (gap, c) ← Gap.readFrom? false column {} (c.rest.length + 1) c
        if !inFlow ∧ c.column < column then return (acc, c)
        else plainFrom? inFlow column acc gap.text fuel c

/-- The plain text that begins here, each line of which begins at or after a column. -/
def plain? (inFlow : Bool) (column : Int) (c : Cursor) : Option (String × Cursor) := do
  if inFlow ∧ c.column < column then none
  else
    let (text, d) ← plainFrom? inFlow column [] [] (c.rest.length + 1) c
    if text = [] then none else return (String.ofList text, d)

/-! ## Blocks of lines -/

/-- What becomes of the line breaks at the end of a block. -/
inductive Chomping where
  /-- None is kept. -/
  | strip
  /-- The first is kept. -/
  | clip
  | keep
  deriving DecidableEq

def Chomping.ofChar? : Char → Option Chomping
  | '+' => some keep
  | '-' => some strip
  | _ => none

/-- The sign and the digit, in either order, that a block may have in front, and their number. -/
def blockMarks : List Char → Chomping × Option Nat × Nat
  | [] => (.clip, none, 0)
  | c :: cs =>
    match Chomping.ofChar? c, digitIn? 10 c with
    | some chomping, _ =>
      match cs.head?.bind (digitIn? 10) with
      | some n => (chomping, some n, 2)
      | none => (chomping, none, 1)
    | none, some n =>
      match cs.head?.bind Chomping.ofChar? with
      | some chomping => (chomping, some n, 2)
      | none => (.clip, some n, 1)
    | none, none => (.clip, none, 0)

/-- Pass over empty lines and over spaces before a column, if one is given; count the lines, and
tell how far any of them goes. -/
def emptyLines (column : Option Nat) (count widest : Nat) :
    (fuel : Nat) → Cursor → Nat × Nat × Cursor
  | 0, c => (count, widest, c)
  | fuel + 1, c =>
    let spaces := (c.rest.takeWhile (· = ' ')).length
    let d := c.skip (match column with
      | some n => min spaces (n - c.column)
      | none => spaces)
    let widest := max widest d.column
    if d.rest ≠ [] ∧ endsLine d.rest then emptyLines column (count + 1) widest fuel d.nextLine
    else (count, widest, d)

/-- The lines of a block so far, and the line breaks after them. -/
structure Block where
  text : List Char := []
  /-- Whether the last line has ended. -/
  hasBreak : Bool := false
  /-- How many empty lines follow. -/
  empty : Nat := 0
  /-- Whether the last line begins with a blank. -/
  isIndented : Bool := false

/-- The text between the last line and another one. -/
def Block.joint (isLiteral isIndented : Bool) (b : Block) : List Char :=
  if !isLiteral && b.hasBreak && !b.isIndented && !isIndented then
    if b.empty = 0 then [' '] else List.replicate b.empty '\n'
  else (if b.hasBreak then ['\n'] else []) ++ List.replicate b.empty '\n'

/-- Read the lines that begin at a column. -/
def Block.readFrom (isLiteral : Bool) (column : Nat) (b : Block) :
    (fuel : Nat) → Cursor → Block × Cursor
  | 0, c => (b, c)
  | fuel + 1, c =>
    if c.rest = [] ∨ c.column ≠ column ∨ (column = 0 ∧ c.endsDocument) then (b, c)
    else
      let isIndented := c.rest.head?.any isSpace
      let line := c.rest.takeWhile (!isBreak ·)
      let text := b.text ++ b.joint isLiteral isIndented ++ line
      let d := c.step line.length
      if d.rest = [] then ({ text, isIndented }, d)
      else
        let (empty, _, d) := emptyLines (some column) 0 0 (d.rest.length + 1) d.nextLine
        readFrom isLiteral column { text, hasBreak := true, empty, isIndented } fuel d

/-- The text of a block that ends before a cursor. -/
def Block.chomp (chomping : Chomping) (column : Nat) (c : Cursor) (b : Block) : List Char :=
  let one := (if b.hasBreak then ['\n'] else [])
    ++ (if c.rest = [] ∧ max column 1 ≤ c.column then ['\n'] else [])
  match chomping with
  | .strip => b.text
  | .clip => b.text ++ one
  | .keep => b.text ++ one ++ List.replicate b.empty '\n'

/-- The text of a block without lines, which has some empty lines at most. -/
def chompEmpty (chomping : Chomping) (hasBreak : Bool) (empty : Nat) : List Char :=
  if chomping = .strip ∨ !hasBreak then []
  else if chomping = .clip ∨ empty = 0 then ['\n']
  else List.replicate empty '\n'

/-- The block of lines that is announced here, in a collection with some indentation. -/
def block? (isLiteral : Bool) (indent : Int) (c : Cursor) : Option (String × Cursor) := do
  let (chomping, digit, length) := blockMarks (c.rest.drop 1)
  let d ← (c.step (length + 1)).afterBlanks?
  if digit = some 0 ∨ !endsLine d.rest then none
  else
    let hasBreak := !d.rest.isEmpty
    let d := if hasBreak then d.nextLine else d
    if d.rest.head? = some '\t' then none
    else
      let given := digit.map fun n => (max indent 0).toNat + n
      let (empty, widest, d) := emptyLines given 0 0 (d.rest.length + 1) d
      let column := given.getD (max widest (indent + 1).toNat)
      if d.rest = [] then
        return (String.ofList (chompEmpty chomping (c.line ≠ d.line) empty), d)
      else if d.column < column ∧ indent < d.column then none
      else
        let (b, d) := Block.readFrom isLiteral column { empty } (d.rest.length + 1) d
        return (String.ofList (b.chomp chomping column d), d)

end EthRpc.Config.Yaml
