-- SUMMARY: Percent-encoding, with a set of characters to encode for each part of a URL.

/-!
# Percent-encoding

An encoded character stands as the bytes of its UTF-8 form, each as a percent
sign and two upper case digits. Control characters and everything outside ASCII
are always encoded; each part of a URL adds the characters that would end it.
What is encoded already stays as it is.
-/

namespace EthRpc.Url

/-- A byte as a percent sign and two digits. -/
def percentByte (b : UInt8) : List Char :=
  '%' :: (if b.toNat < 16 then ['0'] else []) ++ (Nat.toDigits 16 b.toNat).map Char.toUpper

def percentChar (c : Char) : List Char := (String.singleton c).toUTF8.toList.flatMap percentByte

/-- Encode control characters, what lies outside ASCII, and the given characters. -/
def percentEncode (also : List Char) (cs : List Char) : List Char :=
  cs.flatMap fun c =>
    if c.toNat ≤ 0x1f ∨ 0x7e < c.toNat ∨ c ∈ also then percentChar c else [c]

def fragmentSet : List Char := [' ', '"', '<', '>', '\x60']

def querySet : List Char := [' ', '"', '#', '<', '>']

/-- In a query after one of the common schemes, a single quote is encoded too. -/
def commonQuerySet : List Char := '\x27' :: querySet

def pathSet : List Char := querySet ++ ['?', '\x60', '{', '}']

def userinfoSet : List Char := pathSet ++ ['/', ':', ';', '=', '@', '[', '\\', ']', '^', '|']

/-- The encoded form of a part of a URL. -/
def encodeText (also : List Char) (cs : List Char) : String := String.ofList (percentEncode also cs)

/-- The value of two hexadecimal digits. -/
def hexByte? (a b : Char) : Option Nat :=
  let digit? (c : Char) : Option Nat :=
    if '0' ≤ c ∧ c ≤ '9' then some (c.toNat - 48)
    else if 'a' ≤ c ∧ c ≤ 'f' then some (c.toNat - 87)
    else if 'A' ≤ c ∧ c ≤ 'F' then some (c.toNat - 55)
    else none
  match digit? a, digit? b with
  | some x, some y => some (16 * x + y)
  | _, _ => none

/-- The bytes of a text with every percent-encoded byte decoded. -/
def percentDecode : List Char → List UInt8
  | '%' :: a :: b :: rest =>
    match hexByte? a b with
    | some n => n.toUInt8 :: percentDecode rest
    | none => 0x25 :: percentDecode (a :: b :: rest)
  | c :: rest => (String.singleton c).toUTF8.toList ++ percentDecode rest
  | [] => []

end EthRpc.Url
