-- SUMMARY: What the client knows about a method: how long answers last, where its block parameter is.
import EthRpc.Json.Record

/-!
# Method specifications
-/

namespace EthRpc

/-- For how long an answer may be given again. -/
inductive CacheStrategy where
  /-- For ever, whatever the parameters. -/
  | permanent
  /-- For ever, if the block parameter names one block. -/
  | block
  /-- Until the head moves. -/
  | head
  | never
  deriving DecidableEq

namespace CacheStrategy

def text : CacheStrategy → String
  | permanent => "permanent"
  | block => "block"
  | head => "head"
  | never => "never"

def ofText? (s : String) : Option CacheStrategy :=
  [permanent, block, head, never].find? (·.text == s)

/-- The name of a strategy, alone or as the one member, `null`, of an object. -/
def ofSource? : Json.Source → Option CacheStrategy
  | .string s => s.bind ofText?
  | .object [(name, .null)] => name.bind ofText?
  | _ => none

end CacheStrategy

structure MethodSpec where
  cache : CacheStrategy := .never
  /-- The position of the block parameter. -/
  blockParam : Option Nat := none
  /-- Ask again when the answer is empty. -/
  retryOnEmpty : Bool := false
  /-- Keep an answer only if it names the block it belongs to. -/
  requireBlockHash : Bool := false
  deriving DecidableEq

namespace MethodSpec

/-- All that is known of a method that no table lists. -/
def unclassified : MethodSpec := {}

/-- Any field may be left out. -/
def ofSource? (s : Json.Source) : Option MethodSpec :=
  match s.fields? ["cache", "blockParam", "retryOnEmpty", "requireBlockHash"] with
  | some [cache, blockParam, retryOnEmpty, requireBlockHash] => do
    return {
      cache := ← orDefault CacheStrategy.ofSource? .never cache
      blockParam := ← orDefault (Json.Source.optional? Json.Source.nat?) none blockParam
      retryOnEmpty := ← orDefault Json.Source.bool? false retryOnEmpty
      requireBlockHash := ← orDefault Json.Source.bool? false requireBlockHash }
  | _ => none
where
  orDefault {α : Type} (read : Json.Source → Option α) (absent : α) : Option Json.Source → Option α
    | none => some absent
    | some s => read s

def toJson (m : MethodSpec) : Json :=
  .ofMembers [
    ("cache", .string m.cache.text),
    ("blockParam", .ofOption .ofNat m.blockParam),
    ("retryOnEmpty", .bool m.retryOnEmpty),
    ("requireBlockHash", .bool m.requireBlockHash)]

end MethodSpec

/-- What is known of each method, by name. -/
abbrev MethodTable := Dict MethodSpec

namespace MethodTable

/-- What is known of a method. -/
def spec (table : MethodTable) (method : String) : MethodSpec :=
  (Dict.get? method table).getD .unclassified

/-- An object with a specification for each method; the last of several for one method counts. -/
def ofSource? : Json.Source → Option MethodTable
  | .object members =>
    (members.mapM entry?).map Dict.ofList
  | _ => none
where
  entry? (member : Option String × Json.Source) : Option (String × MethodSpec) := do
    return (← member.1, ← MethodSpec.ofSource? member.2)

def parse? (text : String) : Option MethodTable := (Json.Source.parse? text).bind ofSource?

def toJson (table : MethodTable) : Json := .object (Dict.mapValues MethodSpec.toJson table)

end MethodTable

end EthRpc
