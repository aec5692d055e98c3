import Signet.Decimal.Parse
import Signet.Decimal.Scientific
import Signet.Log.Pattern

/-! The values that directives want fields to have. A text is read as the first of these that it can
be: a truth value, a whole number, a floating point number, or else a pattern. -/

namespace Signet.Log

/-- What a directive wants a field to hold. -/
inductive FieldValue where
  | boolean (value : Bool)
  | unsigned (value : UInt64)
  | signed (value : Int)
  /-- A floating point number, by its bits. -/
  | float (bits : UInt64)
  | notNumber
  | pattern (text : String)
  deriving DecidableEq, Repr

namespace FieldValue

/-- Floating point numbers are written without exponents, and whole ones without a point. -/
def floatLayout : Decimal.Layout where
  leastPlain := -400
  greatestPlain := 400
  plus := false
  point := false

/-- The text of a floating point number. -/
def floatText (bits : UInt64) : String :=
  if bits.toNat % Decimal.signBit = Decimal.infinityBits then
    if Decimal.signBit ≤ bits.toNat then "-inf" else "inf"
  else Text.ofAscii (floatLayout.float bits)

/-- The text of a value. -/
def text : FieldValue → String
  | boolean value => s!"{value}"
  | unsigned value => s!"{value.toNat}"
  | signed value => s!"{value}"
  | float bits => floatText bits
  | notNumber => "NaN"
  | pattern text => text

/-- The whole number behind a minus sign, if it has 64 bits with its sign. -/
def negative? (text : String) : Option Int :=
  match text.toList with
  | '-' :: '+' :: _ => none
  | '-' :: rest =>
    (Decimal.parseBelow? (Decimal.signBit + 1) (String.ofList rest)).map fun number => -(number : Int)
  | _ => none

/-- The value of floating point bits. -/
def ofBits (bits : UInt64) : FieldValue :=
  if Decimal.infinityBits < bits.toNat % Decimal.signBit then notNumber else float bits

/-- The value that a text stands for, if it is not a pattern gone wrong. -/
def ofText? (text : String) : Option FieldValue :=
  if text = "true" then some (boolean true)
  else if text = "false" then some (boolean false)
  else
    match Decimal.parse? text, negative? text, Decimal.float? text with
    | some value, _, _ => some (unsigned value)
    | none, some value, _ => some (signed value)
    | none, none, some bits => some (ofBits bits)
    | none, none, none => if Pattern.isPattern text then some (pattern text) else none

/-- Whether two values are wanted by the same fields; the two zeros are the same number. -/
def same : FieldValue → FieldValue → Bool
  | float first, float second =>
    first = second || (first.toNat % Decimal.signBit = 0 && second.toNat % Decimal.signBit = 0)
  | first, second => first = second

end FieldValue
end Signet.Log
