-- SUMMARY: URLs in their parts and as text.
import EthRpc.Url.Host

/-!
# URLs

A URL is kept in its parts, each already in its normal form, so its text is
their concatenation. A few common schemes always have a host and a path that
starts with a slash; any other scheme may have a path of any form.
-/

namespace EthRpc

namespace Url

/-- Who is asked and where. -/
structure Authority where
  username : String
  password : String
  host : Host
  /-- The port, if it is not the one that goes with the scheme. -/
  port : Option Nat
  deriving DecidableEq

end Url

structure Url where
  scheme : String
  authority : Option Url.Authority
  path : String
  query : Option String
  fragment : Option String
  deriving DecidableEq

namespace Url

/-- Schemes that always have a host, or are about files, and the ports that go with them. -/
def commonSchemes : List (String × Option Nat) :=
  [("http", some 80), ("https", some 443), ("ws", some 80), ("wss", some 443), ("ftp", some 21),
   ("file", none)]

def isCommon (scheme : String) : Bool := commonSchemes.any (·.1 == scheme)

def defaultPort? (scheme : String) : Option Nat := (commonSchemes.lookup scheme).join

/-- The port to connect to. -/
def port? (u : Url) : Option Nat := (u.authority.bind (·.port)) <|> defaultPort? u.scheme

namespace Authority

def credentials (a : Authority) : String :=
  if a.username = "" ∧ a.password = "" then ""
  else a.username ++ (if a.password = "" then "" else ":" ++ a.password) ++ "@"

def text (a : Authority) : String :=
  a.credentials ++ a.host.text ++
    match a.port with
    | none => ""
    | some p => ":" ++ toString p

end Authority

/-- What stands between scheme and path; a path that would look like a host is kept apart from it. -/
def hierarchy (u : Url) : String :=
  match u.authority with
  | some a => "//" ++ a.text
  | none => if u.path.startsWith "//" then "/." else ""

/-- The path and the query, as they are asked for. -/
def target (u : Url) : String :=
  u.path ++ ((u.query.map ("?" ++ ·)).getD "")

def text (u : Url) : String :=
  u.scheme ++ ":" ++ u.hierarchy ++ u.target ++ ((u.fragment.map ("#" ++ ·)).getD "")

end Url

end EthRpc
