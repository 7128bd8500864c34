import AppManifest.Text.Hidden

/-!
# Text quoted in messages

`Text.quoted` shows a text in a message so that nothing in it stays invisible: quotation marks and
backslashes are escaped, and a character without a visible form is shown by its code point unless it
has a short escape.
-/

namespace AppManifest.Text

/-- A code point in hexadecimal, in lower case and without leading zeros. -/
def hexadecimal (code : Nat) : List Char :=
  Nat.toDigits 16 code

/-- One character as it stands between the quotation marks. -/
def shown (c : Char) : List Char :=
  if c = '\x00' then ['\\', '0']
  else if c = '\t' then ['\\', 't']
  else if c = '\r' then ['\\', 'r']
  else if c = '\n' then ['\\', 'n']
  else if c = '\\' then ['\\', '\\']
  else if c = '"' then ['\\', '"']
  else if isHidden c then '\\' :: 'u' :: '\x7b' :: hexadecimal c.toNat ++ ['\x7d']
  else [c]

/-- A text between quotation marks. -/
def quoted (text : String) : String :=
  "\"" ++ String.ofList (text.toList.flatMap shown) ++ "\""

end AppManifest.Text
