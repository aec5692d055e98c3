import Signet.Json.Fault

/-! Writing values as JSON text without blanks. Strings are escaped byte by byte: quotes, backslashes
and control characters only. -/

namespace Signet.Json.Print

/-- A lowercase hexadecimal digit. -/
def hexDigit (value : Nat) : UInt8 := UInt8.ofNat (if value < 10 then 48 + value else 87 + value)

/-- How one byte stands in a string. -/
def escaped (byte : UInt8) : Bytes :=
  if byte = ascii '"' then [ascii '\\', ascii '"']
  else if byte = ascii '\\' then [ascii '\\', ascii '\\']
  else if byte = 8 then [ascii '\\', ascii 'b']
  else if byte = 9 then [ascii '\\', ascii 't']
  else if byte = 10 then [ascii '\\', ascii 'n']
  else if byte = 12 then [ascii '\\', ascii 'f']
  else if byte = 13 then [ascii '\\', ascii 'r']
  else if byte < 32 then
    [ascii '\\', ascii 'u', ascii '0', ascii '0', hexDigit (byte.toNat / 16),
      hexDigit (byte.toNat % 16)]
  else [byte]

/-- A string. -/
def text (value : String) : Bytes :=
  ascii '"' :: (Text.utf8 value).flatMap escaped ++ [ascii '"']

/-- A whole number. -/
def natural (value : Nat) : Bytes := Decimal.digits value

/-- A truth value. -/
def boolean (value : Bool) : Bytes := Text.utf8 (if value then "true" else "false")

/-- The value that is none. -/
def null : Bytes := Text.utf8 "null"

/-- Items with commas between them. -/
def separated : List Bytes → Bytes
  | [] => []
  | [item] => item
  | item :: rest => item ++ ascii ',' :: separated rest

/-- A list of written items. -/
def list (items : List Bytes) : Bytes := ascii '[' :: separated items ++ [ascii ']']

/-- A member of an object. -/
def member (name : String) (value : Bytes) : Bytes := text name ++ ascii ':' :: value

/-- An object of named and written values. -/
def object (members : List (String × Bytes)) : Bytes :=
  ascii '\x7b' :: separated (members.map fun each => member each.1 each.2) ++ [ascii '\x7d']

end Signet.Json.Print
