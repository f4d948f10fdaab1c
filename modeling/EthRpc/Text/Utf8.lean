-- SUMMARY: Bytes as text, with a mark for what is no text.

/-!
# UTF-8 from bytes

Bytes that cannot begin a character, or begin one that does not go on, are
replaced by one mark: the longest run that could still have become a character
counts as one.
-/

namespace EthRpc.Text

/-- The mark for what is no text. -/
def replacement : Char := '\ufffd'

/-- What a first byte announces: the value it holds, and the ranges of the bytes to follow. -/
def announced (b : Nat) : Option (Nat × List (Nat × Nat)) :=
  let rest := (0x80, 0xbf)
  if b ≤ 0x7f then some (b, [])
  else if b < 0xc2 then none
  else if b ≤ 0xdf then some (b - 0xc0, [rest])
  else if b = 0xe0 then some (0, [(0xa0, 0xbf), rest])
  else if b = 0xed then some (0xd, [(0x80, 0x9f), rest])
  else if b ≤ 0xef then some (b - 0xe0, [rest, rest])
  else if b = 0xf0 then some (0, [(0x90, 0xbf), rest, rest])
  else if b ≤ 0xf3 then some (b - 0xf0, [rest, rest, rest])
  else if b = 0xf4 then some (4, [(0x80, 0x8f), rest, rest])
  else none

/-- Read on with a character of which `value` is known and the ranges are still to come. -/
def decodeFrom (value : Nat) : List (Nat × Nat) → List Nat → List Char
  | [], [] => [Char.ofNat value]
  | _ :: _, [] => [replacement]
  | [], b :: bs => Char.ofNat value :: start b bs
  | (low, high) :: ranges, b :: bs =>
    if low ≤ b ∧ b ≤ high then decodeFrom (64 * value + (b - 0x80)) ranges bs
    else replacement :: start b bs
where
  /-- Read on with a byte that begins a character. -/
  start (b : Nat) (bs : List Nat) : List Char :=
    match announced b with
    | some (value, ranges) => decodeFrom value ranges bs
    | none =>
      match bs with
      | [] => [replacement]
      | b :: bs => replacement :: start b bs

/-- The text that bytes hold, without a byte order mark at the front. -/
def ofBytes (bytes : List UInt8) : String :=
  let chars := match bytes.map UInt8.toNat with
    | [] => []
    | b :: bs => decodeFrom.start b bs
  String.ofList (match chars with
    | '\ufeff' :: rest => rest
    | cs => cs)

end EthRpc.Text
