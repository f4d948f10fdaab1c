-- SUMMARY: Finding configuration files and telling their format from their name.
import EthRpc.Config.Fault
import EthRpc.Config.Ini
import EthRpc.Config.Json5
import EthRpc.Config.Key
import EthRpc.Config.Ron
import EthRpc.Config.Toml.Document
import EthRpc.Config.Yaml.Source
import EthRpc.Files
import EthRpc.Json.Source

/-!
# Configuration files

A configuration file is named with or without its extension, which tells its
format. Without it, or when there is no such file, each known extension is tried
in turn behind the name. Bytes that are no text do not matter.
-/

namespace EthRpc.Config

inductive Format where
  | toml
  | json
  | yaml
  | ini
  | ron
  | json5
  deriving DecidableEq

namespace Format

def extensions : Format → List String
  | toml => ["toml"]
  | json => ["json"]
  | yaml => ["yaml", "yml"]
  | ini => ["ini"]
  | ron => ["ron"]
  | json5 => ["json5"]

def all : List Format := [toml, json, yaml, ini, ron, json5]

/-- The entries that a text has in a format. -/
def read (f : Format) (s : String) : Except Fault (List (String × Value)) :=
  let orUnreadable (entries : Option (List (String × Value))) := match entries with
    | some entries => .ok entries
    | none => .error .unreadable
  match f with
  | toml => orUnreadable (Toml.parse? s)
  | json =>
    orUnreadable ((Json.parse? s).bind fun v =>
      match Value.ofJson v with
      | .table members => some members
      | _ => none)
  | yaml => Yaml.parse s
  | ini => orUnreadable (Ini.parse? s)
  | ron => orUnreadable (Ron.parse? s)
  | json5 => orUnreadable (Json5.parse? s)

/-- What follows the last point in the last part of a path, unless nothing stands before it. -/
def extensionOf (path : String) : String :=
  let name := path.toList.reverse.takeWhile (· ≠ '/')
  match name.dropWhile (· ≠ '.') with
  | '.' :: _ :: _ => String.ofList (name.takeWhile (· ≠ '.')).reverse
  | _ => ""

/-- The format that the name of a file tells. -/
def ofPath? (path : String) : Option Format :=
  all.find? fun f => f.extensions.contains (extensionOf path)

/-- Known extensions and their formats. -/
def candidates : List (String × Format) := all.flatMap fun f => f.extensions.map fun e => (e, f)

end Format

variable {m : Type → Type} [Monad m]

/-- A path without anything after the last name in it, if that is the name of a file. -/
def baseName? (path : String) : Option String :=
  let parts := (Path.parts path).reverse.dropWhile fun part => part = "" ∨ part = "."
  match parts with
  | [] | ".." :: _ => none
  | parts => some (String.intercalate "/" parts.reverse)

/-- Find the first of some extensions for which there is a file. -/
def findFormat (look : Look m) (base : String) :
    List (String × Format) → m (Option (List UInt8 × Format))
  | [] => pure none
  | (extension, f) :: rest => do
    match ← look (base ++ "." ++ extension) with
    | some (.file content) => return some (content, f)
    | _ => findFormat look base rest

/-- The file that a path leads to, and its format. -/
def find (look : Look m) (path : String) : m (Option (List UInt8 × Format)) := do
  match ← look path, baseName? path with
  | some (.file content), _ => return (Format.ofPath? path).map fun f => (content, f)
  | _, some base => findFormat look base Format.candidates
  | _, none => return none

/-- The entries of the configuration that a path leads to. -/
def load (look : Look m) (path : String) : m (Except Fault (List (String × Value))) := do
  match ← find look path with
  | some (content, f) => return f.read (Text.ofBytes content)
  | none => return .error .unreadable

end EthRpc.Config
