-- SUMMARY: JSON texts as trees, before their numbers, strings and repeated members are judged.
import EthRpc.Json.Token

/-!
# Source trees

A source tree is a text after its brackets, commas and colons were found right.
Its leaves may still be unusable: a numeral too large for a double, a string
with a lone surrogate. Members stand in the order of the text and may repeat. A
reader that ignores a member never looks at its leaves or its depth.
-/

namespace EthRpc.Json

inductive Source where
  | null
  | bool (b : Bool)
  | number (n : Option Number)
  | string (s : Option String)
  | array (items : List Source)
  | object (members : List (Option String × Source))

namespace Source

/-! ## From tokens -/

/-- An open bracket: what stood in it so far, last first. -/
inductive Frame where
  | array (items : List Source)
  | object (members : List (Option String × Source))
  /-- An object whose named member is being read. -/
  | member (members : List (Option String × Source)) (name : Option String)

/-- What may come next inside the open brackets. -/
inductive Expected where
  | value
  | valueOrClose
  | name
  | nameOrClose
  | colon
  | separator
  | nothing (value : Source)

structure Partial where
  open_ : List Frame
  expected : Expected

namespace Partial

def start : Partial := ⟨[], .value⟩

/-- A value is complete: it goes into the innermost bracket. -/
def complete (v : Source) : List Frame → Option Partial
  | [] => some ⟨[], .nothing v⟩
  | .array items :: fs => some ⟨.array (v :: items) :: fs, .separator⟩
  | .member members name :: fs => some ⟨.object ((name, v) :: members) :: fs, .separator⟩
  | .object _ :: _ => none

/-- A value or an opening bracket. -/
def openValue (fs : List Frame) : Token → Option Partial
  | .null => complete .null fs
  | .bool b => complete (.bool b) fs
  | .numeral n => complete (.number n.number?) fs
  | .string s => complete (.string (s.map String.ofList)) fs
  | .openArray => some ⟨.array [] :: fs, .valueOrClose⟩
  | .openObject => some ⟨.object [] :: fs, .nameOrClose⟩
  | _ => none

/-- A closing bracket that fits the innermost open one. -/
def close : List Frame → Token → Option Partial
  | .array items :: fs, .closeArray => complete (.array items.reverse) fs
  | .object members :: fs, .closeObject => complete (.object members.reverse) fs
  | _, _ => none

/-- Take one token. -/
def step (p : Partial) (t : Token) : Option Partial :=
  match p.expected, p.open_, t with
  | .value, fs, t => openValue fs t
  | .valueOrClose, fs, .closeArray => close fs .closeArray
  | .valueOrClose, fs, t => openValue fs t
  | .name, .object members :: fs, .string s =>
    some ⟨.member members (s.map String.ofList) :: fs, .colon⟩
  | .nameOrClose, .object members :: fs, .string s =>
    some ⟨.member members (s.map String.ofList) :: fs, .colon⟩
  | .nameOrClose, fs, .closeObject => close fs .closeObject
  | .colon, fs, .colon => some ⟨fs, .value⟩
  | .separator, .array items :: fs, .comma => some ⟨.array items :: fs, .value⟩
  | .separator, .object members :: fs, .comma => some ⟨.object members :: fs, .name⟩
  | .separator, fs, t => close fs t
  | _, _, _ => none

def finish (p : Partial) : Option Source :=
  match p.expected with
  | .nothing v => some v
  | _ => none

end Partial

/-- The tree of a whole text. -/
def ofTokens? (ts : List Token) : Option Source := (ts.foldlM Partial.step Partial.start).bind Partial.finish

/-- Read a text that must be one value with nothing but blanks around it. -/
def parse? (text : String) : Option Source := (Token.scan text.toList).bind ofTokens?

/-! ## Between sources and values -/

mutual

/-- The value of a tree nested at most `depth` deep; the last of several members of one name counts. -/
def value? (depth : Nat) : Source → Option Json
  | .null => some .null
  | .bool b => some (.bool b)
  | .number n => n.map .number
  | .string s => s.map .string
  | .array items =>
    if depth = 0 then none else (items? (depth - 1) items).map .array
  | .object members =>
    if depth = 0 then none else (members? (depth - 1) members).map Json.ofMembers

def items? (depth : Nat) : List Source → Option (List Json)
  | [] => some []
  | s :: rest => do return (← value? depth s) :: (← items? depth rest)

def members? (depth : Nat) : List (Option String × Source) → Option (List (String × Json))
  | [] => some []
  | (name, s) :: rest => do return (← name, ← value? depth s) :: (← members? depth rest)

end

mutual

/-- A value as a tree that spells it. -/
def ofJson : Json → Source
  | .null => .null
  | .bool b => .bool b
  | .number n => .number (some n)
  | .string s => .string (some s)
  | .array items => .array (ofItems items)
  | .object members => .object (ofMembers members)

def ofItems : List Json → List Source
  | [] => []
  | v :: rest => ofJson v :: ofItems rest

def ofMembers : List (String × Json) → List (Option String × Source)
  | [] => []
  | (name, v) :: rest => (some name, ofJson v) :: ofMembers rest

end

end Source

/-- Arrays and objects nest at most this deep in a text. -/
def depthLimit : Nat := 127

/-- The value of a text. -/
def parse? (text : String) : Option Json := (Source.parse? text).bind (Source.value? depthLimit)

end EthRpc.Json
