-- SUMMARY: Configurations as lines of names and values in sections.
import EthRpc.Digits
import EthRpc.Config.Value
import EthRpc.Text.Letters

/-!
# INI

A name and its value have an equals sign or a colon between them, and the value
ends with the line. A name runs up to the next such sign, even over lines. A
section in brackets makes a table of the entries that follow. Comments start
where a line does. Values are text, in quotes of either kind or without, and a
backslash spells other characters.
-/

namespace EthRpc.Config.Ini

/-- Take something off the front of a text. -/
abbrev Reader (α : Type) := List Char → Option (α × List Char)

def trim (cs : List Char) : List Char :=
  ((cs.dropWhile Text.isBlank).reverse.dropWhile Text.isBlank).reverse

/-- What a backslash and the text after it spell. -/
def escape? : List Char → Option (List Char × List Char)
  | [] => none
  | 'x' :: cs =>
    let digits := cs.take 4
    let number? := match digits with
      | '+' :: rest => if rest = [] then none else readDigits? 16 0 rest
      | ds => readDigits? 16 0 ds
    if digits.length < 4 then none
    else (number?.bind charOf?).map fun c => ([c], cs.drop 4)
  | c :: cs =>
    match c with
    | '0' => some (['\x00'], cs)
    | 'a' => some (['\x07'], cs)
    | 'b' => some (['\x08'], cs)
    | 't' => some (['\t'], cs)
    | 'r' => some (['\r'], cs)
    | 'n' => some (['\n'], cs)
    | '\n' => some ([], cs)
    | c => some ([c], cs)

/-- Read up to one of some characters, which is left, or to the end if that will do; `acc` is the
text so far, backwards. -/
def readUntil (stops : List Char) (endWillDo : Bool) (acc : List Char) : (fuel : Nat) → Reader (List Char)
  | 0, _ => none
  | fuel + 1, cs =>
    match cs with
    | [] => if endWillDo then some (acc.reverse, []) else none
    | c :: rest =>
      if c ∈ stops then some (acc.reverse, cs)
      else if c = '\\' then
        (escape? rest).bind fun (text, rest) => readUntil stops endWillDo (text.reverse ++ acc) fuel rest
      else readUntil stops endWillDo (c :: acc) fuel rest

def textUntil (stops : List Char) (endWillDo : Bool) (cs : List Char) : Option (List Char × List Char) :=
  readUntil stops endWillDo [] (cs.length + 1) cs

/-- A value, which may begin with texts in quotes; `quoted` is what these say, if there are any. -/
def valueFrom (quoted : Option (List Char)) : (fuel : Nat) → Reader (List Char)
  | 0, _ => none
  | fuel + 1, cs =>
    match cs with
    | [] => some (quoted.getD [], [])
    | c :: rest =>
      if c = '"' ∨ c = '\x27' then do
        let (inside, rest) ← textUntil [c] false rest
        valueFrom (some (quoted.getD [] ++ inside)) fuel (rest.drop 1)
      else do
        let (plain, rest) ← textUntil ['\n', '\r'] true cs
        match quoted with
        | none => return (trim plain, rest)
        | some text => return (text ++ (plain.reverse.dropWhile Text.isBlank).reverse, rest)

/-- A value after its sign. -/
def value? (cs : List Char) : Option (List Char × List Char) :=
  let isGap (c : Char) : Bool := Text.isBlank c && c ≠ '\n' && c ≠ '\r'
  let cs := cs.dropWhile isGap
  valueFrom none (cs.length + 1) cs

/-- Entries in the order in which they were read, backwards, each with the section it is in. -/
structure Reading where
  /-- The section in force. -/
  current : Option String := none
  sections : List String := []
  entries : List (Option String × String × String) := []

/-- Read on; `isFresh` tells whether a line begins here. -/
def readFrom (r : Reading) (isFresh : Bool) : (fuel : Nat) → List Char → Option Reading
  | 0, _ => none
  | fuel + 1, cs =>
    match cs with
    | [] => some r
    | c :: rest =>
      if Text.isBlank c then readFrom r (c = '\n') fuel rest
      else if c = ';' ∨ c = '#' then
        if isFresh then readFrom r true fuel ((rest.dropWhile (· ≠ '\n')).drop 1) else none
      else if c = '[' then do
        let (name, rest) ← textUntil [']'] false rest
        let name := String.ofList (trim name)
        readFrom { r with current := some name, sections := name :: r.sections } false fuel (rest.drop 1)
      else do
        let (key, rest) ← textUntil ['=', ':'] false cs
        let key := String.ofList (trim key)
        if key = "" then none
        else
          let (v, rest) ← value? (rest.drop 1)
          readFrom { r with entries := (r.current, key, String.ofList v) :: r.entries } false fuel rest

/-- The entries of a section. -/
def Reading.entriesOf (r : Reading) (name : Option String) : Dict Value :=
  Dict.ofList ((r.entries.reverse.filter (·.1 = name)).map fun (_, key, v) => (key, .text v))

/-- The entries outside of sections and one table for each section. -/
def Reading.members (r : Reading) : Dict Value :=
  r.sections.reverse.foldl (fun d name => Dict.insert name (.table (r.entriesOf (some name))) d)
    (r.entriesOf none)

/-- The entries that a text lists. -/
def parse? (s : String) : Option (List (String × Value)) :=
  let cs := s.toList
  (readFrom {} true (cs.length + 1) cs).map Reading.members

end EthRpc.Config.Ini
