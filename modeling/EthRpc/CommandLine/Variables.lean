-- SUMMARY: Files of variables: one a line, with quotes, escapes and references to other variables.
import EthRpc.Text.Letters

/-!
# Files of variables

A line gives a variable its value; blank lines and comments give nothing. A value
is plain or in quotes, double ones allowing escapes and references, single ones
nothing. A reference is a dollar sign and a name, in braces or not, and stands
for a variable around or one given further up. Reading ends at the first line
that is none of this. Variables that are there already keep their values, and no
other may get a value that has a NUL in it.
-/

namespace EthRpc.CommandLine

/-- Names and their values; the first of a name counts. -/
abbrev Variables := List (String × String)

namespace Variables

/-- The value of a variable; what is around comes before what the file has given. -/
def resolve (around given : Variables) (name : String) : String :=
  ((around.lookup name) <|> (given.lookup name)).getD ""

/-! ## Values -/

/-- Where in a value a character stands. -/
inductive Place where
  | plain
  | doubleQuoted
  | singleQuoted
  /-- After a backslash, inside double quotes or not. -/
  | escaped (quoted : Bool)
  /-- In a reference without braces, whose name so far is given backwards. -/
  | reference (name : List Char) (quoted : Bool)
  /-- In a reference with braces. -/
  | braced (name : List Char) (quoted : Bool)
  /-- After a blank: only blanks and a comment may follow. -/
  | trailing

/-- The place around an escape or a reference. -/
def Place.outside (quoted : Bool) : Place := if quoted then .doubleQuoted else .plain

/-- What a backslash and a character spell. -/
def escape? : Char → Option Char
  | '\\' => some '\\'
  | '\x27' => some '\x27'
  | '"' => some '"'
  | '$' => some '$'
  | ' ' => some ' '
  | 'n' => some '\n'
  | _ => none

/-- Read on through a value; `acc` is the text so far, backwards. -/
def valueFrom (lookup : String → String) (acc : List Char) : Place → List Char → Option (List Char)
  | .plain, [] | .trailing, [] | .escaped false, [] => some acc.reverse
  | .reference name quoted, [] =>
    if quoted then none
    else some ((lookup (String.ofList name.reverse)).toList.reverse ++ acc).reverse
  | _, [] => none
  | .trailing, c :: cs =>
    if c = ' ' ∨ c = '\t' then valueFrom lookup acc .trailing cs
    else if c = '#' then some acc.reverse
    else none
  | .escaped quoted, c :: cs =>
    (escape? c).bind fun c => valueFrom lookup (c :: acc) (.outside quoted) cs
  | .singleQuoted, c :: cs =>
    if c = '\x27' then valueFrom lookup acc .plain cs
    else valueFrom lookup (c :: acc) .singleQuoted cs
  | .braced name quoted, c :: cs =>
    if c = '}' then
      valueFrom lookup ((lookup (String.ofList name.reverse)).toList.reverse ++ acc)
        (.outside quoted) cs
    else valueFrom lookup acc (.braced (c :: name) quoted) cs
  | .reference name quoted, c :: cs =>
    if Text.isAlphanumeric c then valueFrom lookup acc (.reference (c :: name) quoted) cs
    else if c = '{' ∧ name = [] then valueFrom lookup acc (.braced [] quoted) cs
    else
      let acc := (lookup (String.ofList name.reverse)).toList.reverse ++ acc
      if c = '$' then valueFrom lookup acc (.reference [] quoted) cs
      else valueFrom lookup (c :: acc) (.outside quoted) cs
  | .doubleQuoted, c :: cs =>
    if c = '$' then valueFrom lookup acc (.reference [] true) cs
    else if c = '"' then valueFrom lookup acc .plain cs
    else if c = '\\' then valueFrom lookup acc (.escaped true) cs
    else valueFrom lookup (c :: acc) .doubleQuoted cs
  | .plain, c :: cs =>
    if c = '$' then valueFrom lookup acc (.reference [] false) cs
    else if c = '\x27' then valueFrom lookup acc .singleQuoted cs
    else if c = '"' then valueFrom lookup acc .doubleQuoted cs
    else if c = '\\' then valueFrom lookup acc (.escaped false) cs
    else if c = ' ' ∨ c = '\t' then valueFrom lookup acc .trailing cs
    else valueFrom lookup (c :: acc) .plain cs

/-! ## Lines -/

def isKeyChar (c : Char) : Bool := c.isAlphanum || c = '_' || c = '.'

/-- A name at the front, and the rest after blanks. -/
def key? (cs : List Char) : Option (String × List Char) :=
  match cs with
  | c :: _ =>
    if c.isAlpha ∨ c = '_' then
      some (String.ofList (cs.takeWhile isKeyChar),
        (cs.dropWhile isKeyChar).dropWhile Text.isBlank)
    else none
  | [] => none

/-- The name that a line gives a value to, and the text after its equals sign. -/
def assignment? (cs : List Char) : Option (String × List Char) := do
  let (name, rest) ← key? cs
  match name, rest with
  | name, '=' :: rest => return (name, rest.dropWhile Text.isBlank)
  | "export", rest =>
    let (name, rest) ← key? rest
    match rest with
    | '=' :: rest => return (name, rest.dropWhile Text.isBlank)
    | _ => none
  | _, _ => none

/-- What a line gives: nothing or a value; `none` if it cannot be read. -/
def line? (around given : Variables) (line : List Char) : Option (Option (String × String)) :=
  let trimmed := (line.reverse.dropWhile Text.isBlank).reverse
  let cs := trimmed.dropWhile Text.isBlank
  match cs with
  | [] | '#' :: _ => some none
  | _ => do
    let (name, rest) ← assignment? cs
    match rest with
    | [] | '#' :: _ => return some (name, "")
    | _ =>
      let value ← valueFrom (resolve around given) [] .plain rest
      return some (name, String.ofList value)

/-- The variables around and those that a file gives, the last one first. -/
structure Loading where
  around : Variables
  given : Variables := []

/-- Take over a variable unless there is one of its name around. -/
def Loading.add? (l : Loading) (name value : String) : Option Loading :=
  let given := (name, value) :: l.given
  if (l.around.lookup name).isSome then some { l with given }
  else if '\x00' ∈ value.toList then none
  else some ⟨l.around ++ [(name, value)], given⟩

/-- Take over variables line by line, until a line cannot be read. -/
def Loading.addLines? (l : Loading) : List (List Char) → Option Loading
  | [] => some l
  | line :: lines =>
    match line? l.around l.given line with
    | none => some l
    | some none => l.addLines? lines
    | some (some (name, value)) => (l.add? name value).bind (·.addLines? lines)

/-- The lines of a file, up to one that is no text. -/
def textLines (content : List UInt8) : List (List Char) :=
  let lines := (content.splitOn 10).map fun line => String.fromUTF8? ⟨line.toArray⟩
  (lines.takeWhile Option.isSome).filterMap fun line => line.map String.toList

/-- The variables around together with those that a file adds, unless one cannot be taken over. -/
def load? (around : Variables) (content : List UInt8) : Option Variables :=
  (Loading.addLines? { around } (textLines content)).map (·.around)

end Variables

end EthRpc.CommandLine
