-- SUMMARY: Requests and replies as they go over the connection.
import EthRpc.Digits
import EthRpc.Url.Basic

/-!
# Messages

A request is a head of lines and a body whose length the head tells. A reply has
a status line, more lines, and a body: of the length that is told, or in chunks,
or of all that comes before the connection ends. Whether a reply is complete can
be asked at any time while its bytes come in.
-/

namespace EthRpc.Http

def lineEnd : String := "\r\n"

/-- The request that sends a body to a URL, over a connection of its own. -/
def requestText (u : Url) (body : String) : String :=
  let host := (u.authority.map fun a => { a with username := "", password := "" : Url.Authority }.text).getD ""
  String.intercalate lineEnd [
    "POST " ++ u.target ++ " HTTP/1.1",
    "content-type: application/json",
    "accept: */*",
    "host: " ++ host,
    "content-length: " ++ toString body.utf8ByteSize,
    "connection: close",
    "",
    body]

/-! ## Replies -/

/-- How much of a reply has come. -/
inductive Progress where
  | incomplete
  | malformed
  | complete (status : Nat) (body : List UInt8)
  deriving DecidableEq

/-- The bytes before a line end and the bytes after it. -/
def splitLine : List UInt8 → Option (List UInt8 × List UInt8)
  | 13 :: 10 :: rest => some ([], rest)
  | b :: rest => (splitLine rest).map fun (line, rest) => (b :: line, rest)
  | [] => none

/-- The lines up to the first empty one, and the bytes after it; each line takes two bytes at least. -/
def splitHead : Nat → List UInt8 → Option (List (List UInt8) × List UInt8)
  | 0, _ => none
  | fuel + 1, bytes =>
    match splitLine bytes with
    | none => none
    | some ([], rest) => some ([], rest)
    | some (line, rest) => (splitHead fuel rest).map fun (lines, rest) => (line :: lines, rest)

def chars (bytes : List UInt8) : List Char := bytes.map fun b => Char.ofNat b.toNat

def trim (cs : List Char) : List Char :=
  let isBlank (c : Char) : Bool := c = ' ' || c = '\t'
  ((cs.dropWhile isBlank).reverse.dropWhile isBlank).reverse

/-- The status in the first line of a reply. -/
def status? (line : List UInt8) : Option Nat :=
  match chars line with
  | 'H' :: 'T' :: 'T' :: 'P' :: '/' :: _ :: '.' :: _ :: ' ' :: a :: b :: c :: rest =>
    if rest = [] ∨ rest.head? = some ' ' then readDigits? 10 0 [a, b, c] else none
  | _ => none

/-- A field in a line of the head: its name in lower case and its value. -/
def field? (line : List UInt8) : Option (String × String) :=
  let cs := chars line
  let name := cs.takeWhile (· ≠ ':')
  match cs.drop name.length with
  | ':' :: value => some (String.ofList (name.map Char.toLower), String.ofList (trim value))
  | _ => none

/-- What is known of a body in chunks; each chunk takes five bytes at least. -/
def chunks (acc : List UInt8) : Nat → List UInt8 → Option (Option (List UInt8))
  | 0, _ => some none
  | fuel + 1, bytes =>
    match splitLine bytes with
    | none => some none
    | some (line, rest) =>
      match readDigits? 16 0 (trim ((chars line).takeWhile (· ≠ ';'))) with
      | none => none
      | some 0 => some ((splitHead (rest.length + 1) rest).map fun _ => acc)
      | some n =>
        if rest.length < n + 2 then some none
        else chunks (acc ++ rest.take n) fuel (rest.drop (n + 2))

/-- The body of a reply, from the bytes after its head; `isOver` tells that no more will come. -/
def bodyProgress (status : Nat) (fields : List (String × String)) (bytes : List UInt8)
    (isOver : Bool) : Progress :=
  if status = 204 ∨ status = 304 then .complete status []
  else if (fields.lookup "transfer-encoding").any (·.toLower == "chunked") then
    match chunks [] (bytes.length + 1) bytes with
    | none => .malformed
    | some none => if isOver then .malformed else .incomplete
    | some (some body) => .complete status body
  else
    match fields.lookup "content-length" with
    | some text =>
      match readDecimal? text.toList with
      | none => .malformed
      | some n =>
        if n ≤ bytes.length then .complete status (bytes.take n)
        else if isOver then .malformed
        else .incomplete
    | none => if isOver then .complete status bytes else .incomplete

/-- How far a reply has come. -/
def progress (bytes : List UInt8) (isOver : Bool) : Progress :=
  match splitHead (bytes.length + 1) bytes with
  | none => if isOver then .malformed else .incomplete
  | some ([], _) => .malformed
  | some (first :: lines, rest) =>
    match status? first with
    | none => .malformed
    | some status => bodyProgress status (lines.filterMap field?) rest isOver

end EthRpc.Http
