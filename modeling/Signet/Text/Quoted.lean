import Signet.Text.Unprintable

/-! Texts in double quotes, as messages show them: quotes, backslashes and characters that are not
shown are escaped. -/

namespace Signet.Text

/-- The hexadecimal digits of a number, in lowercase and without leading zeros. -/
def hexDigits (number : Nat) : List Char := Nat.toDigits 16 number

/-- How one character stands between the quotes. -/
def quotedChar (char : Char) : List Char :=
  if char = '"' then ['\\', '"']
  else if char = '\\' then ['\\', '\\']
  else if char = '\n' then ['\\', 'n']
  else if char = '\r' then ['\\', 'r']
  else if char = '\t' then ['\\', 't']
  else if char.toNat = 0 then ['\\', '0']
  else if isUnprintable char then ['\\', 'u', '\x7b'] ++ hexDigits char.toNat ++ ['\x7d']
  else [char]

/-- The text in double quotes. -/
def quoted (text : String) : String :=
  String.ofList ('"' :: text.toList.flatMap quotedChar ++ ['"'])

end Signet.Text
