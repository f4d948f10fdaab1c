-- SUMMARY: TOML documents: lists, tables, and what may not be said twice.
import EthRpc.Config.Toml.Scalar

/-!
# TOML documents

A document is a sequence of lines that fill tables. A header opens a table, a
header in double brackets opens the next table of a list. A key with dots leads
through tables that come into being on the way. No key has two values and no
table is opened twice, but a table that only came into being by the headers of
its parts can still be opened. A table whose first key is a certain mark stands
for the moment that its value is the text of.
-/

namespace EthRpc.Toml

/-- How a table came to be. -/
inductive Origin where
  /-- On the way to the table of a header. -/
  | passed
  /-- By its own header. -/
  | opened
  /-- On the way along a key with dots. -/
  | dotted
  deriving DecidableEq

inductive Node where
  | scalar (s : Scalar)
  | list (items : List Node)
  /-- A table on one line, to which nothing can be added. -/
  | closed (members : List (String × Node))
  | table (origin : Origin) (members : List (String × Node))
  /-- Tables of one header, the last one first. -/
  | tables (elements : List (List (String × Node)))

abbrev Members := List (String × Node)

def Members.find? (name : String) (ms : Members) : Option Node := ms.lookup name

/-- Put a node under a name, in place of what stood there. -/
def Members.put (name : String) (n : Node) (ms : Members) : Members :=
  if ms.any (·.1 == name) then ms.map fun m => if m.1 == name then (name, n) else m
  else ms ++ [(name, n)]

/-! ## Filling tables -/

/-- Follow a path down from a table and change the table at its end; `viaDots` tells whether the
path is that of a key with dots. -/
def descend (viaDots : Bool) (change : Origin → Members → Option Members) :
    (path : List String) → Origin → Members → Option Members
  | [], origin, ms => change origin ms
  | name :: path, _, ms =>
    match ms.find? name with
    | none => do
      let origin := if viaDots then Origin.dotted else .passed
      return ms.put name (.table origin (← descend viaDots change path origin []))
    | some (.table origin inner) =>
      if viaDots ∧ origin = .opened then none
      else do return ms.put name (.table origin (← descend viaDots change path origin inner))
    | some (.tables (last :: before)) => do
      return ms.put name (.tables ((← descend viaDots change path .opened last) :: before))
    | some _ => none

/-- Give a key a value, counted from a table. -/
def assign (key : List String) (n : Node) (origin : Origin) (ms : Members) :
    Option Members :=
  match key.reverse with
  | [] => none
  | name :: front =>
    let put (origin : Origin) (ms : Members) : Option Members :=
      if (ms.find? name).isSome ∨ (front ≠ [] ∧ origin ≠ .dotted) then none
      else some (ms.put name n)
    descend true put front.reverse origin ms

/-- Open the table of a header. -/
def openTable (header : List String) (root : Members) : Option Members :=
  match header.reverse with
  | [] => none
  | name :: front =>
    descend false (fun _ ms =>
      match ms.find? name with
      | none => some (ms.put name (.table .opened []))
      | some (.table .passed inner) => some (ms.put name (.table .opened inner))
      | some _ => none) front.reverse .opened root

/-- Open the next table of a list. -/
def openNext (header : List String) (root : Members) : Option Members :=
  match header.reverse with
  | [] => none
  | name :: front =>
    descend false (fun _ ms =>
      match ms.find? name with
      | none => some (ms.put name (.tables [[]]))
      | some (.tables elements) => some (ms.put name (.tables ([] :: elements)))
      | some _ => none) front.reverse .opened root

/-- Give a key a value in the table of the last header. -/
def assignUnder (header key : List String) (n : Node) (root : Members) : Option Members :=
  descend false (assign key n) header .opened root

/-! ## Values -/

/-- The rest of a text after a comment, which runs up to the line end. -/
def skipComment (cs : List Char) : Option (List Char) :=
  match cs with
  | '#' :: rest =>
    let after := rest.dropWhile isPrintable
    if after = [] ∨ (lineEnd? after).isSome then some after else none
  | _ => some cs

/-- Skip blanks, line ends and comments between the items of a list. -/
def skipLines : Nat → List Char → Option (List Char)
  | 0, cs => some cs
  | fuel + 1, cs => do
    let rest ← skipComment (skipBlanks cs)
    match lineEnd? rest with
    | some rest => skipLines fuel rest
    | none => return rest

mutual

/-- A value at the front of a text, within `depth` lists and tables. -/
def value? (depth : Nat) : Nat → Reader Node
  | 0, _ => none
  | fuel + 1, cs =>
    match cs with
    | '[' :: rest =>
      if depthBound ≤ depth + 1 then none
      else do
        let (items, rest) ← items? (depth + 1) fuel rest
        return (.list items, rest)
    | '{' :: rest =>
      if depthBound ≤ depth + 1 then none
      else
        match skipBlanks rest with
        | '}' :: rest => some (.closed [], rest)
        | rest => do
          let (ms, rest) ← entries? (depth + 1) fuel [] rest
          return (.closed ms, rest)
    | _ => (scalar? cs).map fun (s, rest) => (.scalar s, rest)

/-- The items of a list after its opening bracket or a comma. -/
def items? (depth : Nat) : Nat → Reader (List Node)
  | 0, _ => none
  | fuel + 1, cs => do
    match ← skipLines cs.length cs with
    | ']' :: rest => return ([], rest)
    | rest =>
      let (n, rest) ← value? depth fuel rest
      match ← skipLines rest.length rest with
      | ',' :: rest =>
        let (ns, rest) ← items? depth fuel rest
        return (n :: ns, rest)
      | ']' :: rest => return ([n], rest)
      | _ => none

/-- All entries of a table on one line, of which some have been read, from one of its keys on. -/
def entries? (depth : Nat) : Nat → Members → Reader Members
  | 0, _, _ => none
  | fuel + 1, ms, cs => do
    let (key, rest) ← key? cs
    match rest with
    | '=' :: rest =>
      let (n, rest) ← value? depth fuel (skipBlanks rest)
      let ms ← assign key n .opened ms
      match skipBlanks rest with
      | ',' :: rest => entries? depth fuel ms rest
      | '}' :: rest => return (ms, rest)
      | _ => none
    | _ => none

end

/-! ## Documents -/

/-- What has been read: the header in force and all tables. -/
structure Document where
  header : List String
  root : Members

/-- The end of a line after a statement. -/
def finishLine? (cs : List Char) : Option (List Char) := do
  let rest ← skipComment (skipBlanks cs)
  if rest = [] then some [] else lineEnd? rest

/-- Read one line, or one statement over several lines. -/
def statement? (d : Document) (cs : List Char) : Option (Document × List Char) :=
  let cs := skipBlanks cs
  match cs with
  | [] => some (d, [])
  | '[' :: '[' :: rest => do
    let (header, rest) ← key? rest
    match rest with
    | ']' :: ']' :: rest => return (⟨header, ← openNext header d.root⟩, ← finishLine? rest)
    | _ => none
  | '[' :: rest => do
    let (header, rest) ← key? rest
    match rest with
    | ']' :: rest => return (⟨header, ← openTable header d.root⟩, ← finishLine? rest)
    | _ => none
  | c :: _ =>
    if c = '#' ∨ (lineEnd? cs).isSome then (finishLine? cs).map (d, ·)
    else do
      let (key, rest) ← key? cs
      match rest with
      | '=' :: rest =>
        let (n, rest) ← value? 0 (rest.length + 1) (skipBlanks rest)
        return ({ d with root := ← assignUnder d.header key n d.root }, ← finishLine? rest)
      | _ => none

/-- Read on to the end; every statement takes at least one character. -/
def documentFrom (d : Document) : Nat → List Char → Option Document
  | _, [] => some d
  | 0, _ :: _ => none
  | fuel + 1, cs => do
    let (d, rest) ← statement? d cs
    documentFrom d fuel rest

/-! ## What a document says -/

/-- The first key of a table that stands for a moment. -/
def momentMark : String := "$__toml_private_datetime"

mutual

/-- The value of a node, if all moments in it are some. -/
def Node.value? : Node → Option Config.Value
  | .scalar s => some s.value
  | .list items => (itemValues? items).map .ofItems
  | .closed members | .table _ members => tableValue? members
  | .tables elements => (elementValues? elements).map fun vs => .ofItems vs.reverse

/-- The value of a table. -/
def tableValue? : List (String × Node) → Option Config.Value
  | [] => some (.table [])
  | (name, n) :: rest =>
    if name = momentMark then
      match n with
      | .scalar (.plain (.text s)) => (momentOfText? s).map .text
      | _ => none
    else do return .table ((name, ← n.value?) :: (← memberValues? rest))

def memberValues? : List (String × Node) → Option (List (String × Config.Value))
  | [] => some []
  | (name, n) :: rest => do return (name, ← n.value?) :: (← memberValues? rest)

def itemValues? : List Node → Option (List Config.Value)
  | [] => some []
  | n :: rest => do return (← n.value?) :: (← itemValues? rest)

def elementValues? : List (List (String × Node)) → Option (List Config.Value)
  | [] => some []
  | ms :: rest => do return (← tableValue? ms) :: (← elementValues? rest)

end

/-- The entries of the table that a document describes. -/
def parse? (s : String) : Option (List (String × Config.Value)) := do
  let cs := match s.toList with
    | '\ufeff' :: rest => rest
    | cs => cs
  let d ← documentFrom ⟨[], []⟩ (cs.length + 1) cs
  match ← tableValue? d.root with
  | .table members => some members
  | _ => none

end EthRpc.Toml
