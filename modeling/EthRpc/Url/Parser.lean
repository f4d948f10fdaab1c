-- SUMMARY: Reading URLs and bringing their parts into normal form.
import EthRpc.Url.Basic
import EthRpc.Url.Path

/-!
# Reading URLs

Only absolute URLs are read. Blanks around the text and line ends within it are
dropped. After a common scheme any number of slashes, or backslashes, leads to
the host. Segments that are dots walk along the path and are not kept. A text
that lacks a scheme or a host that it needs, or has an impossible host or port,
is no URL.
-/

namespace EthRpc.Url

/-! ## Scheme -/

def isBlank (c : Char) : Bool := c.toNat ≤ 0x20

/-- The text without blanks around it. -/
def trim (cs : List Char) : List Char :=
  ((cs.dropWhile isBlank).reverse.dropWhile isBlank).reverse

def isSchemeChar (c : Char) : Bool := c.isAlphanum || c = '+' || c = '-' || c = '.'

/-- The scheme in lower case, of which `acc` has been read, backwards, and what follows its colon. -/
def schemeFrom (acc : List Char) : List Char → Option (String × List Char)
  | [] => none
  | c :: cs =>
    if isBreak c then schemeFrom acc cs
    else if c = ':' ∧ acc ≠ [] then some (String.ofList acc.reverse, cs)
    else if isSchemeChar c ∧ (acc ≠ [] ∨ c.isAlpha) then schemeFrom (c.toLower :: acc) cs
    else none

/-! ## Authority -/

/-- The text up to the first of some characters, and the text from there on. -/
def spanUntil (stops : List Char) (cs : List Char) : List Char × List Char :=
  (cs.takeWhile (· ∉ stops), cs.dropWhile (· ∉ stops))

def authorityEnd (common : Bool) : List Char :=
  ['/', '?', '#'] ++ if common then ['\\'] else []

/-- The text before the last at sign, if there is one, and the text after it. -/
def splitCredentials (cs : List Char) : Option (List Char) × List Char :=
  if '@' ∈ cs then
    let back := cs.reverse
    (some ((back.dropWhile (· ≠ '@')).drop 1).reverse, (back.takeWhile (· ≠ '@')).reverse)
  else (none, cs)

/-- The host and, after a colon outside brackets, the port. -/
def splitPort : List Char → List Char × Option (List Char)
  | '[' :: cs =>
    let (inside, rest) := spanUntil [']'] cs
    match rest with
    | ']' :: ':' :: port => ('[' :: inside ++ [']'], some port)
    | _ => ('[' :: cs, none)
  | cs =>
    match spanUntil [':'] cs with
    | (host, ':' :: port) => (host, some port)
    | (host, _) => (host, none)

/-- A port, if one is given that does not go with the scheme anyway. -/
def portOf? (scheme : String) : Option (List Char) → Option (Option Nat)
  | none | some [] => some none
  | some ds => do
    let n ← readDigits? 10 0 ds
    if n < 1 <<< 16 then some (if defaultPort? scheme = some n then none else some n) else none

/-- The authority at the front of a text, and what follows it. A port also ends at a backslash. -/
def authority? (scheme : String) (cs : List Char) : Option (Authority × List Char) := do
  let common := isCommon scheme
  let (text, tail) := spanUntil (authorityEnd common) cs
  let (credentials, rest) := splitCredentials text
  let (hostText, portText) := splitPort rest
  let (port, beyond) := match portText with
    | none => (none, [])
    | some text => let (port, beyond) := spanUntil ['\\'] text; (some port, beyond)
  let (username, password) := spanUntil [':'] (credentials.getD [])
  let password := password.drop 1
  let needsHost := common ∨ portText.isSome ∨ username ≠ [] ∨ password ≠ []
    ∨ (credentials.isSome ∧ credentials = some [] ∧ tail ≠ [])
  if hostText = [] ∧ needsHost then none
  else
    let authority : Authority := {
      username := encodeText userinfoSet username
      password := encodeText userinfoSet password
      host := ← if hostText = [] then some (.opaqueText "") else Host.parse? common hostText
      port := ← portOf? scheme port }
    return (authority, beyond ++ tail)

/-! ## The whole -/

/-- What stands before the query, the query, and the fragment. -/
def splitTail (cs : List Char) : List Char × Option (List Char) × Option (List Char) :=
  let (front, fragment) := spanUntil ['#'] cs
  let (path, query) := spanUntil ['?'] front
  let after (rest : List Char) : Option (List Char) :=
    if rest = [] then none else some (withoutBreaks (rest.drop 1))
  (path, after query, after fragment)

/-- A URL from its parts, given how its path comes from the text of the path. -/
def ofParts (scheme : String) (authority : Option Authority) (path : List Char → String)
    (cs : List Char) : Url :=
  let (pathText, query, fragment) := splitTail cs
  { scheme
    authority
    path := path pathText
    query := query.map (encodeText (if isCommon scheme then commonQuerySet else querySet))
    fragment := fragment.map (encodeText fragmentSet) }

/-- The path after a host. Only after a common scheme a path that is not there is a slash. -/
def pathAfterHost (common : Bool) (cs : List Char) : String :=
  match cs with
  | [] => if common then "/" else ""
  | c :: rest => pathAlong common (if c = '/' ∨ (common ∧ c = '\\') then rest else cs)

/-! ## Files -/

def noHost : Host := .opaqueText ""

/-- The URL of a file on a host, from a text without its first slash. A path with a drive needs no
host, and the path does not begin with empty segments. -/
def ofFile (host : Host) (cs : List Char) : Url :=
  let w := Walk.along true {} (segmentsOf true (splitTail cs).1)
  let path := String.ofList ('/' :: w.path.toList.dropWhile (· = '/'))
  ofParts "file" (some ⟨"", "", if w.hasDrive then noHost else host, none⟩) (fun _ => path) cs

/-- The text after a slash of either kind, if it begins with one. -/
def afterSlash? (cs : List Char) : Option (List Char) :=
  match cs.dropWhile isBreak with
  | c :: rest => if isAnySlash c then some rest else none
  | [] => none

/-- The URL of a file, whose host may be missing; the local host is as good as none. -/
def file? (cs : List Char) : Option Url :=
  match afterSlash? cs with
  | none => some (ofFile noHost cs)
  | some once =>
    match afterSlash? once with
    | none => some (ofFile noHost once)
    | some twice =>
      let (text, tail) := spanUntil (authorityEnd true) twice
      let text := withoutBreaks text
      if isDrive text then some (ofFile noHost twice)
      else if text = [] then some (ofFile noHost tail)
      else (Host.parse? true text).map fun host =>
        if host = .name "localhost" then ofFile noHost tail
        else ofFile host ((afterSlash? tail).getD tail)

/-! ## All schemes -/

def parse? (s : String) : Option Url := do
  let (scheme, rest) ← schemeFrom [] (trim s.toList)
  if scheme = "file" then file? rest
  else
    let rest := withoutBreaks rest
    let withHost (cs : List Char) : Option Url := do
      let (authority, tail) ← authority? scheme cs
      return ofParts scheme (some authority) (pathAfterHost (isCommon scheme)) tail
    if isCommon scheme then withHost (rest.dropWhile isAnySlash)
    else
      match rest with
      | '/' :: '/' :: rest => withHost rest
      | '/' :: rest => some (ofParts scheme none (pathAlong false) rest)
      | _ => some (ofParts scheme none (encodeText []) rest)

end EthRpc.Url
