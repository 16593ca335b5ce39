import Stockroom.Text.Hidden

/-!
# Quoted texts

A text between double quotes, for messages that show it unmistakably: quotes and
backslashes are escaped, and so is every character that does not show by itself.
-/

namespace Stockroom.Text

/-- The code of a character in as few hexadecimal digits as it needs. -/
def codeEscape (c : Char) : List Char :=
  ['\\', 'u', '{'] ++ Nat.toDigits 16 c.toNat ++ ['}']

def quotedChar (c : Char) : List Char :=
  match c with
  | '"' => ['\\', '"']
  | '\\' => ['\\', '\\']
  | '\n' => ['\\', 'n']
  | '\r' => ['\\', 'r']
  | '\t' => ['\\', 't']
  | '\x00' => ['\\', '0']
  | c => if isHidden c then codeEscape c else [c]

def quoted (text : String) : String :=
  String.ofList ('"' :: text.toList.flatMap quotedChar ++ ['"'])

end Stockroom.Text
