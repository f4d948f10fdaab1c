-- SUMMARY: Looking at files without saying where they are kept, and files kept in a table.
import EthRpc.Text.Utf8

/-!
# Files

What a program does with files only depends on what it finds there, so it is
written for any way of looking at them: a real file system or a table.
-/

namespace EthRpc

/-- What a path leads to. -/
inductive Entry where
  | file (content : List UInt8)
  | directory
  deriving DecidableEq

/-- A way of finding what a path leads to. -/
abbrev Look (m : Type → Type) := String → m (Option Entry)

namespace Entry

/-- The content of a file, if it is text. -/
def text? : Entry → Option String
  | file content => String.fromUTF8? ⟨content.toArray⟩
  | directory => none

end Entry

/-! ## Paths -/

namespace Path

/-- The parts of a path between slashes. -/
def parts (path : String) : List String := path.splitOn "/"

/-- A part that stands for a directory that is known from the rest of the path. -/
def isDots (part : String) : Bool := part = "." || part = ".."

/-- The paths to the directories on the way of a path, the nearest one to its start first. -/
def ancestors (path : String) : List String :=
  let ps := parts path
  ((List.range ps.length).map fun i => String.intercalate "/" (ps.take i)).filter (· ≠ "")

/-- The last part, if it can be the name of a file. -/
def fileName? (path : String) : Option String :=
  (parts path).getLast?.filter fun name => name ≠ "" ∧ ¬isDots name

end Path

/-! ## Tables of files -/

/-- Files by the parts of their paths, all of which start at the same directory, and directories that
are there even if nothing is in them. -/
structure FileTable where
  files : List (List String × List UInt8)
  directories : List (List String)

namespace FileTable

/-- What stands at a place. -/
def entry? (t : FileTable) (place : List String) : Option Entry :=
  match t.files.lookup place with
  | some content => some (.file content)
  | none =>
    if (t.directories ++ t.files.map (·.1)).any place.isPrefixOf then some .directory else none

/-- Walk along a path from a place, through directories only. -/
def walk (t : FileTable) (place : List String) : List String → Option Entry
  | [] => t.entry? place
  | part :: rest =>
    if t.entry? place ≠ some .directory then none
    else if part = "" ∨ part = "." then walk t place rest
    else if part = ".." then walk t place.dropLast rest
    else walk t (place ++ [part]) rest

/-- Look at a table; `start` tells where a path starts and which of its parts lead on from there. -/
def look (t : FileTable) (start : List String → List String × List String) : Look Id := fun path =>
  if path = "" then none
  else
    let (place, rest) := start (Path.parts path)
    t.walk place rest

end FileTable

end EthRpc
