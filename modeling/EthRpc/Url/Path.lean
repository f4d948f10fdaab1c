-- SUMMARY: Paths of segments: dots are walked along, everything else is encoded.
import EthRpc.Url.Percent

/-!
# Paths

A path is walked segment by segment. One dot stays where it is and two dots go
back one segment, but never over a drive. At the front of a file's path a drive
is recognized and written with a colon, and then the file needs no host. Tabs
and line ends do not count, but one that comes right after such a drive cuts it
off from the rest of the segment.
-/

namespace EthRpc.Url

/-- Tabs and line ends, which do not count. -/
def isBreak (c : Char) : Bool := c = '\t' || c = '\n' || c = '\r'

def withoutBreaks (cs : List Char) : List Char := cs.filter (!isBreak ·)

def isAnySlash (c : Char) : Bool := c = '/' || c = '\\'

/-! ## Segments -/

/-- The segments of a path; after a common scheme backslashes are as good as slashes. -/
def segmentsOf (common : Bool) (cs : List Char) : List (List Char) :=
  (cs.map fun c => if common ∧ c = '\\' then '/' else c).splitOn '/'

def isDot (segment : List Char) : Bool :=
  segment = ['.'] || segment.map Char.toLower = ['%', '2', 'e']

def isDoubleDot (segment : List Char) : Bool :=
  let s := segment.map Char.toLower
  s = ['.', '.'] || s = ['.', '%', '2', 'e'] || s = ['%', '2', 'e', '.'] ||
    s = ['%', '2', 'e', '%', '2', 'e']

/-- A letter and a colon, or a bar for it: a drive. -/
def isDrive : List Char → Bool
  | [c, ':'] | [c, '|'] => c.isAlpha
  | _ => false

/-- A drive, alone or before a backslash. -/
def startsWithDrive : List Char → Bool
  | a :: b :: rest => isDrive [a, b] && (rest = [] || rest.head? = some '\\')
  | _ => false

/-- A drive that a tab or a line end cuts off from the rest of a segment, and the rest. -/
def cutDrive? (segment : List Char) : Option (Char × List Char) :=
  match segment.dropWhile isBreak with
  | [] => none
  | c :: rest =>
    match rest.dropWhile isBreak with
    | ':' :: b :: rest =>
      if c.isAlpha ∧ isBreak b ∧ withoutBreaks rest ≠ [] then some (c, withoutBreaks rest) else none
    | _ => none

/-! ## Walking -/

structure Walk where
  /-- The segments on the way, the last one first. -/
  passed : List String := []
  /-- A drive was recognized. -/
  hasDrive : Bool := false

namespace Walk

/-- Go back one segment, but not over a drive. -/
def up (w : Walk) : Walk :=
  match w.passed with
  | [] => w
  | s :: rest => if startsWithDrive s.toList then w else { w with passed := rest }

/-- Stop after a slash. -/
def stop (w : Walk) : Walk := { w with passed := "" :: w.passed }

/-- Walk along a segment that is not made of dots. -/
def enter (file : Bool) (w : Walk) (segment : List Char) : Walk :=
  let text := withoutBreaks segment
  let drive (c : Char) : String := String.ofList [c, ':']
  let plain := { w with passed := encodeText pathSet text :: w.passed }
  if file ∧ w.passed = [] then
    match cutDrive? segment, text with
    | some (c, rest), _ => { w with passed := [encodeText pathSet rest, drive c] }
    | none, c :: _ => if isDrive text then ⟨[drive c], true⟩ else plain
    | none, [] => plain
  else plain

/-- Walk along segments. -/
def along (file : Bool) (w : Walk) : List (List Char) → Walk
  | [] => w
  | s :: rest =>
    let atEnd (w : Walk) : Walk := if rest = [] then w.stop else w
    let text := withoutBreaks s
    if isDoubleDot text then along file (atEnd w.up) rest
    else if isDot text then along file (atEnd w) rest
    else along file (w.enter file s) rest

/-- The path that was walked. -/
def path (w : Walk) : String := String.join (w.passed.reverse.map ("/" ++ ·))

end Walk

/-- The path that leads along a text from its first slash on, without that slash. -/
def pathAlong (common : Bool) (cs : List Char) : String :=
  (Walk.along false {} (segmentsOf common cs)).path

end EthRpc.Url
