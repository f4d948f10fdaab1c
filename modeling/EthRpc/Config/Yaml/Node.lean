-- SUMMARY: Nodes, which are scalars, lists and tables, and what plain texts say.
import EthRpc.Config.Decimal

/-!
# Nodes

A plain text is a number, a truth value or nothing if it looks like one. A tag
says what it has to be, and a text that is something else is a misfit. A table
lists its members in order, and no key stands twice in it.
-/

namespace EthRpc.Config.Yaml

inductive Node where
  | nothing
  /-- A text that is not what its tag says. -/
  | misfit
  | flag (b : Bool)
  | whole (n : Int)
  /-- A decimal number, or a word for infinity or for no number. -/
  | double (text : String)
  | text (s : String)
  | list (items : List Node)
  | table (members : List (Node × Node))

namespace Node

instance : Inhabited Node := ⟨nothing⟩

/-! ## Plain texts -/

/-- A whole number in some base, with or without a sign. -/
def wholeIn? (base : Nat) (cs : List Char) : Option Int :=
  let (negative, ds) := Decimal.sign cs
  if ds = [] then none
  else (readDigits? base 0 ds).bind fun n => within64? (if negative then -n else n)

/-- A whole number in base ten, or behind a mark in base sixteen or eight. -/
def whole? : List Char → Option Int
  | '0' :: 'x' :: cs => wholeIn? 16 cs
  | '0' :: 'o' :: cs => wholeIn? 8 cs
  | '+' :: cs => wholeIn? 10 cs
  | cs => wholeIn? 10 cs

def infinityWords : List String :=
  [".inf", ".Inf", ".INF", "+.inf", "+.Inf", "+.INF", "-.inf", "-.Inf", "-.INF"]

def noNumberWords : List String := [".nan", ".NaN", ".NAN"]

/-- Whether a text is a decimal number with at least one digit, or one of the words. -/
def isDouble (s : String) : Bool :=
  infinityWords.contains s || noNumberWords.contains s
    || (s.toList.any Char.isDigit && (double? s.toList).isSome)

/-- What a plain text says. -/
def ofPlain (s : String) : Node :=
  if ["", "~", "null"].contains s then nothing
  else if s = "true" then flag true
  else if s = "false" then flag false
  else
    match whole? s.toList with
    | some n => whole n
    | none => if isDouble s then double s else text s

/-- What a plain text says that has to be of some kind. -/
def ofKind (kind s : String) : Node :=
  match kind with
  | "bool" => if s = "true" then flag true else if s = "false" then flag false else misfit
  | "int" =>
    match wholeIn? 10 s.toList with
    | some n => whole n
    | none => misfit
  | "float" => if isDouble s then double s else misfit
  | "null" => if ["~", "null"].contains s then nothing else misfit
  | _ => text s

/-! ## Tables -/

mutual

/-- Whether two nodes are the same key. -/
def same : Node → Node → Bool
  | nothing, nothing => true
  | misfit, misfit => true
  | flag a, flag b => a = b
  | whole m, whole n => m = n
  | double s, double t => s = t
  | text s, text t => s = t
  | list as, list bs => sameItems as bs
  | table as, table bs => sameMembers as bs
  | _, _ => false

def sameItems : List Node → List Node → Bool
  | [], [] => true
  | a :: as, b :: bs => same a b && sameItems as bs
  | _, _ => false

def sameMembers : List (Node × Node) → List (Node × Node) → Bool
  | [], [] => true
  | (a, x) :: as, (b, y) :: bs => same a b && same x y && sameMembers as bs
  | _, _ => false

end

/-- Keys and values, which take turns; a misfit is no key. -/
def pairs : List Node → List (Node × Node)
  | misfit :: rest => pairs rest
  | k :: v :: rest => (k, v) :: pairs rest
  | _ => []

/-- Whether no key stands twice. -/
def isProper : List (Node × Node) → Bool
  | [] => true
  | (k, _) :: rest => !rest.any (fun p => same k p.1) && isProper rest

/-- The table of keys and values that take turns. -/
def ofMembers? (nodes : List Node) : Option Node :=
  let members := pairs nodes
  if isProper members then some (table members) else none

end Node

end EthRpc.Config.Yaml
