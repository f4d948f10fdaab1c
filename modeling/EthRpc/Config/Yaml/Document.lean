-- SUMMARY: From tokens to the documents that they make up.
import EthRpc.Config.Yaml.Node
import EthRpc.Config.Yaml.Token

/-!
# Documents

A text is a row of documents, each of which is one node. A node may have a tag and
an anchor, by which the same node is meant again further on. Where a node is
missing it is nothing. A node that is meant again inside itself is a misfit.
-/

namespace EthRpc.Config.Yaml

/-- Tokens to come, and the nodes that have anchors. -/
structure Supply where
  tokens : List Token
  /-- The number of each anchor: an anchor of the same name takes its place. -/
  anchors : Dict Nat := []
  /-- Nodes by number, as soon as they are complete. -/
  nodes : List (Nat × Node) := []
  /-- How many anchors there are. -/
  count : Nat := 0

namespace Supply

/-- Go on with some tokens. -/
def goOn (tokens : List Token) (s : Supply) : Supply := { s with tokens }

/-- A new anchor and its number. -/
def addAnchor (name : String) (s : Supply) : Nat × Supply :=
  (s.count, { s with anchors := s.anchors.insert name s.count, count := s.count + 1 })

/-- Keep a node that is complete. -/
def keep (anchor : Option Nat) (node : Node) (s : Supply) : Supply :=
  match anchor with
  | some n => { s with nodes := (n, node) :: s.nodes }
  | none => s

/-- The node that an anchor stands for. -/
def meant? (name : String) (s : Supply) : Option Node :=
  (s.anchors.get? name).map fun n => (s.nodes.lookup n).getD .misfit

end Supply

/-! ## Tags and scalars -/

/-- What the tags of the common kinds begin with. -/
def commonHandle : String := "tag:yaml.org,2002:"

/-- A tag with what its handle stands for; a closed handle has to be declared. -/
def expand? (handles : Dict String) (t : Tag) : Option Tag :=
  match handles.get? t.handle with
  | some text => some ⟨text, t.suffix⟩
  | none =>
    if t.handle = "!!" then some ⟨commonHandle, t.suffix⟩
    else if isClosed t.handle.toList then none
    else some t

def ofScalar (isPlain : Bool) (tag : Option Tag) (text : String) : Node :=
  if isPlain then
    match tag with
    | some t => if t.handle = commonHandle then .ofKind t.suffix text else .text text
    | none => .ofPlain text
  else .text text

/-- The anchor and the tag in front of a node. -/
structure Properties where
  anchor : Option Nat := none
  tag : Option Tag := none

def properties? (handles : Dict String) (s : Supply) : Option (Properties × Supply) :=
  match s.tokens with
  | .anchor name :: .tag t :: rest =>
    let (anchor, s) := s.addAnchor name
    (expand? handles t).map fun tag => ({ anchor, tag }, s.goOn rest)
  | .tag t :: .anchor name :: rest =>
    let (anchor, s) := s.addAnchor name
    (expand? handles t).map fun tag => ({ anchor, tag }, s.goOn rest)
  | .anchor name :: rest =>
    let (anchor, s) := s.addAnchor name
    some ({ anchor }, s.goOn rest)
  | .tag t :: rest => (expand? handles t).map fun tag => ({ tag }, s.goOn rest)
  | _ => some ({}, s)

/-! ## Nodes -/

/-- Where in a collection a node stands. -/
structure Position where
  /-- Whether it may go by indentation. -/
  inBlock : Bool
  /-- Whether it may be a list that is not further to the right than what is around. -/
  mayBeItems : Bool := false
  /-- The tokens that may follow in place of the node. -/
  ends : List Token

def Position.blockItem : Position := { inBlock := true, ends := [.item, .blockEnd] }

def Position.bareItem : Position := { inBlock := true, ends := [.item, .key, .value, .blockEnd] }

def Position.blockMember : Position :=
  { inBlock := true, mayBeItems := true, ends := [.key, .value, .blockEnd] }

def Position.flowItem : Position := { inBlock := false, ends := [] }

def Position.flowItemValue : Position := { inBlock := false, ends := [.comma, .listClose] }

def Position.flowKey : Position := { inBlock := false, ends := [.value, .comma, .tableClose] }

def Position.flowValue : Position := { inBlock := false, ends := [.comma, .tableClose] }

mutual

/-- The node at a position. -/
def node? (handles : Dict String) (p : Position) : (fuel : Nat) → Supply → Option (Node × Supply)
  | 0, _ => none
  | fuel + 1, s =>
    if s.tokens.head?.any (p.ends.contains ·) then some (.nothing, s)
    else
      match s.tokens with
      | .reference name :: rest => (s.meant? name).map fun node => (node, s.goOn rest)
      | _ => do
        let (ps, s) ← properties? handles s
        let (node, s) ← content? handles p ps fuel s
        return (node, s.keep ps.anchor node)

/-- A node after its properties. -/
def content? (handles : Dict String) (p : Position) (ps : Properties) :
    (fuel : Nat) → Supply → Option (Node × Supply)
  | 0, _ => none
  | fuel + 1, s =>
    let empty := if ps.anchor.isSome ∨ ps.tag.isSome then some (ofScalar true ps.tag "", s) else none
    let ofItems (r : List Node × Supply) : Node × Supply := (.list r.1, r.2)
    let ofMembers? (r : List Node × Supply) : Option (Node × Supply) :=
      (Node.ofMembers? r.1).map fun node => (node, r.2)
    match s.tokens with
    | .scalar isPlain text :: rest => some (ofScalar isPlain ps.tag text, s.goOn rest)
    | .listOpen :: rest => (flowItems? handles true fuel (s.goOn rest)).map ofItems
    | .tableOpen :: rest => (flowMembers? handles true fuel (s.goOn rest)).bind ofMembers?
    | .item :: _ => if p.mayBeItems then (bareItems? handles fuel s).map ofItems else empty
    | .blockList :: rest =>
      if p.inBlock then (blockItems? handles fuel (s.goOn rest)).map ofItems else empty
    | .blockTable :: rest =>
      if p.inBlock then (blockMembers? handles fuel (s.goOn rest)).bind ofMembers? else empty
    | _ => empty

/-- The items of a list by indentation. -/
def blockItems? (handles : Dict String) : (fuel : Nat) → Supply → Option (List Node × Supply)
  | 0, _ => none
  | fuel + 1, s =>
    match s.tokens with
    | .blockEnd :: rest => some ([], s.goOn rest)
    | .item :: rest => do
      let (v, s) ← node? handles .blockItem fuel (s.goOn rest)
      let (vs, s) ← blockItems? handles fuel s
      return (v :: vs, s)
    | _ => none

/-- The items of a list that has no indentation of its own. -/
def bareItems? (handles : Dict String) : (fuel : Nat) → Supply → Option (List Node × Supply)
  | 0, _ => none
  | fuel + 1, s =>
    match s.tokens with
    | .item :: rest => do
      let (v, s) ← node? handles .bareItem fuel (s.goOn rest)
      let (vs, s) ← bareItems? handles fuel s
      return (v :: vs, s)
    | _ => some ([], s)

/-- The keys and values of a table by indentation, which take turns. -/
def blockMembers? (handles : Dict String) : (fuel : Nat) → Supply → Option (List Node × Supply)
  | 0, _ => none
  | fuel + 1, s =>
    match s.tokens with
    | .blockEnd :: rest => some ([], s.goOn rest)
    | .key :: _ | .value :: _ => do
      let (k, s) ← keyOf? handles .blockMember fuel s
      let (v, s) ← valueOf? handles .blockMember fuel s
      let (rest, s) ← blockMembers? handles fuel s
      return (k :: v :: rest, s)
    | _ => none

/-- The items of a list in brackets, in front of each of which but the first there is a comma. -/
def flowItems? (handles : Dict String) (isFirst : Bool) :
    (fuel : Nat) → Supply → Option (List Node × Supply)
  | 0, _ => none
  | fuel + 1, s =>
    let item? (s : Supply) : Option (List Node × Supply) :=
      match s.tokens with
      | .listClose :: rest => some ([], s.goOn rest)
      | .key :: _ | .value :: _ => do
        let (k, s) ← pairKey? handles fuel s
        let (v, s) ← valueOf? handles .flowItemValue fuel s
        let pair ← Node.ofMembers? [k, v]
        let (vs, s) ← flowItems? handles false fuel s
        return (pair :: vs, s)
      | _ => do
        let (v, s) ← node? handles .flowItem fuel s
        let (vs, s) ← flowItems? handles false fuel s
        return (v :: vs, s)
    match s.tokens with
    | .comma :: rest => if isFirst then none else item? (s.goOn rest)
    | .listClose :: _ => item? s
    | _ => if isFirst then item? s else none

/-- The keys and values of a table in braces, which take turns. -/
def flowMembers? (handles : Dict String) (isFirst : Bool) :
    (fuel : Nat) → Supply → Option (List Node × Supply)
  | 0, _ => none
  | fuel + 1, s =>
    let member? (s : Supply) : Option (List Node × Supply) :=
      match s.tokens with
      | .tableClose :: rest => some ([], s.goOn rest)
      | .key :: _ | .value :: _ => do
        let (k, s) ← keyOf? handles .flowKey fuel s
        let (v, s) ← valueOf? handles .flowValue fuel s
        let (rest, s) ← flowMembers? handles false fuel s
        return (k :: v :: rest, s)
      | _ => do
        let (k, s) ← node? handles .flowItem fuel s
        let (rest, s) ← flowMembers? handles false fuel s
        return (k :: .nothing :: rest, s)
    match s.tokens with
    | .comma :: rest => if isFirst then none else member? (s.goOn rest)
    | .tableClose :: _ => member? s
    | _ => if isFirst then member? s else none

/-- The key of a member, which is missing before a value. -/
def keyOf? (handles : Dict String) (p : Position) : (fuel : Nat) → Supply → Option (Node × Supply)
  | 0, _ => none
  | fuel + 1, s =>
    match s.tokens with
    | .key :: rest => node? handles p fuel (s.goOn rest)
    | _ => some (.nothing, s)

/-- The key of a pair in a list; one that is announced but missing takes the next token along. -/
def pairKey? (handles : Dict String) : (fuel : Nat) → Supply → Option (Node × Supply)
  | 0, _ => none
  | fuel + 1, s =>
    match s.tokens with
    | .key :: .value :: rest | .key :: .comma :: rest | .key :: .listClose :: rest =>
      some (.nothing, s.goOn rest)
    | _ => keyOf? handles .flowItem fuel s

/-- The value of a member, which may be missing. -/
def valueOf? (handles : Dict String) (p : Position) : (fuel : Nat) → Supply → Option (Node × Supply)
  | 0, _ => none
  | fuel + 1, s =>
    match s.tokens with
    | .value :: rest => node? handles p fuel (s.goOn rest)
    | _ => some (.nothing, s)

end

/-! ## Documents -/

/-- What handles stand for in a document after some directives, of which the last counts; there is
one version at most. -/
def directives? (hasVersion : Bool) (handles : Dict String) :
    List Token → Option (Dict String × List Token)
  | .directive .version :: rest => if hasVersion then none else directives? true [] rest
  | .directive (.handle name text) :: rest => directives? hasVersion [(name, text)] rest
  | rest => some (handles, rest)

/-- Whether there is no node between the marks of a document. -/
def isEmptyDocument : List Token → Bool
  | [] => true
  | t :: _ =>
    match t with
    | .directive _ | .documentStart | .documentEnd => true
    | _ => false

/-- The documents that are left; `mayBeBare` tells whether the next needs no mark. -/
def documents? (mayBeBare : Bool) : (fuel : Nat) → Supply → Option (List Node)
  | 0, _ => none
  | fuel + 1, s =>
    let depth := 4 * s.tokens.length + 4
    let position : Position := { inBlock := true, ends := [] }
    let after (r : Node × Supply) : Option (List Node) :=
      match r.2.tokens with
      | .documentEnd :: rest => (documents? true fuel (r.2.goOn rest)).map (r.1 :: ·)
      | .directive _ :: _ => none
      | _ => (documents? false fuel r.2).map (r.1 :: ·)
    let tokens := s.tokens.dropWhile (· = .documentEnd)
    if tokens = [] then some []
    else if mayBeBare ∧ !isEmptyDocument tokens then
      (node? [] position depth (s.goOn tokens)).bind after
    else do
      let (handles, tokens) ← directives? false [] tokens
      match tokens with
      | .documentStart :: rest =>
        if isEmptyDocument rest then after (.nothing, s.goOn rest)
        else (node? handles position depth (s.goOn rest)).bind after
      | _ => none

/-- The documents that a text holds. -/
def ofText? (s : String) : Option (List Node) := do
  let tokens ← tokens? s
  documents? true (tokens.length + 2) { tokens }

end EthRpc.Config.Yaml
