-- SUMMARY: Text in quotes for diagnostics, with everything that cannot be seen spelled out.
import EthRpc.Text.Hidden

/-!
# Quoted text

Between the quotes, quotes and backslashes get a backslash, the common controls
a letter, and all other characters that would not show or would change the
character before them their number.
-/

namespace EthRpc.Text

/-- A character between quotes. -/
def quotedChar (c : Char) : List Char :=
  match c with
  | '"' => ['\\', '"']
  | '\\' => ['\\', '\\']
  | '\x00' => ['\\', '0']
  | '\t' => ['\\', 't']
  | '\n' => ['\\', 'n']
  | '\r' => ['\\', 'r']
  | c => if isHidden c then ['\\', 'u', '{'] ++ Nat.toDigits 16 c.toNat ++ ['}'] else [c]

def quoted (s : String) : String :=
  String.ofList ('"' :: (s.toList.flatMap quotedChar ++ ['"']))

end EthRpc.Text
