-- SUMMARY: Hashes of thirty-two bytes and their text.
import EthRpc.Json.Record

/-!
# Hashes

A hash is written as `0x` and 64 lower case digits. It is read with or without
`0x` or `0X`, with digits of either case, or from an array of its bytes.
-/

namespace EthRpc

structure Hash32 where
  bits : BitVec 256
  deriving DecidableEq

namespace Hash32

/-- The hash whose bytes are those of a number, most significant first. -/
def ofNat (n : Nat) : Hash32 := ⟨BitVec.ofNat 256 n⟩

def toNat (h : Hash32) : Nat := h.bits.toNat

/-- The 64 digits. -/
def digits (h : Hash32) : List Char :=
  let ds := Nat.toDigits 16 h.toNat
  List.replicate (64 - ds.length) '0' ++ ds

def text (h : Hash32) : String := String.ofList ('0' :: 'x' :: h.digits)

/-- Exactly 64 hexadecimal digits. -/
def ofDigits? (cs : List Char) : Option Hash32 :=
  if cs.length = 64 then (readDigits? 16 0 cs).map ofNat else none

/-- Text with or without `0x` or `0X`. -/
def ofText? (s : String) : Option Hash32 :=
  match s.toList with
  | '0' :: 'x' :: rest | '0' :: 'X' :: rest => ofDigits? rest
  | cs => ofDigits? cs

/-- Exactly 32 bytes. -/
def ofBytes? (bytes : List Nat) : Option Hash32 :=
  if bytes.length = 32 ∧ bytes.all (· < 256) then some (ofNat (bytes.foldl (256 * · + ·) 0)) else none

/-- Text or an array of bytes. -/
def ofSource? : Json.Source → Option Hash32
  | .string s => s.bind ofText?
  | .array items => (items.mapM Json.Source.nat?).bind ofBytes?
  | _ => none

end Hash32

end EthRpc
