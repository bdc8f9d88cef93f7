import RegistryLoad.Text.Unseen

/-!
# Text for inspection

A text between double quotes in which every character can be seen: quotes and backslashes have a
backslash before them, and characters that do not show are written by name or by number.
-/

namespace RegistryLoad.Text

/-- The hexadecimal digits of `n`, most significant first, without leading zeros. -/
def hexadecimal (n : Nat) : List Char := Nat.toDigits 16 n

/-- One character of an inspected text. -/
def inspectedChar (c : Char) : List Char :=
  match c with
  | '"' => ['\\', '"']
  | '\\' => ['\\', '\\']
  | '\n' => ['\\', 'n']
  | '\r' => ['\\', 'r']
  | '\t' => ['\\', 't']
  | '\x00' => ['\\', '0']
  | c => if isUnseen c then "\\u\x7b".toList ++ hexadecimal c.toNat ++ ['\x7d'] else [c]

/-- The text between double quotes with every character visible. -/
def inspected (text : List Char) : List Char :=
  '"' :: text.flatMap inspectedChar ++ ['"']

end RegistryLoad.Text
