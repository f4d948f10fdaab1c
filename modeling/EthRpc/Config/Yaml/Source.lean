-- SUMMARY: Configurations as YAML.
import EthRpc.Config.Fault
import EthRpc.Config.Yaml.Document

/-!
# YAML

A configuration is one document, which is a table; a text without documents has no
entries. Keys are texts or whole numbers, and there is no place for an entry under
another key. Words for infinity and for no number are not read.
-/

namespace EthRpc.Config.Yaml

namespace Node

/-- The name that a key makes. -/
def name? : Node → Option String
  | text s => some s
  | whole n => some (toString n)
  | _ => none

mutual

def value : Node → Except Fault Value
  | nothing => .ok .nothing
  | misfit => .ok .nothing
  | flag b => .ok (.flag b)
  | whole n => .ok (.whole n)
  | double s =>
    match double? s.toList with
    | some v => .ok v
    | none => .error .unreadable
  | text s => .ok (.text s)
  | list items => (values items).map .ofItems
  | table members => (entries members).map fun es => .table (Dict.ofList es)

def values : List Node → Except Fault (List Value)
  | [] => .ok []
  | node :: rest => do
    let v ← value node
    return v :: (← values rest)

def entries : List (Node × Node) → Except Fault (List (String × Value))
  | [] => .ok []
  | (key, node) :: rest =>
    match name? key with
    | none => .error .noPlace
    | some name => do
      let v ← value node
      return (name, v) :: (← entries rest)

end

end Node

/-- The entries of the document that a text is. -/
def parse (s : String) : Except Fault (List (String × Value)) :=
  match ofText? s with
  | some [] => .ok []
  | some [root] => root.value.bind fun
    | .table members => .ok members
    | _ => .error .unreadable
  | _ => .error .unreadable

end EthRpc.Config.Yaml
