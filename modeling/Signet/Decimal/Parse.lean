import Signet.Decimal.Digits

/-! Numerals as people write them into settings: digits, perhaps behind a plus sign. -/

namespace Signet.Decimal

/-- The digits of a numeral, without its plus sign. -/
def numeralDigits (text : Bytes) : Bytes :=
  match text with
  | byte :: rest => if byte = ascii '+' then rest else text
  | [] => []

/-- The number below the bound that a text stands for, if it is at least one digit, perhaps behind a
plus sign. Zeros may come first. -/
def parseBelow? (bound : Nat) (text : String) : Option Nat :=
  let run := numeralDigits (Text.utf8 text)
  if run ≠ [] ∧ run.all isDigit = true ∧ value 0 run < bound then some (value 0 run) else none

/-- The 64-bit number that a text stands for. -/
def parse? (text : String) : Option UInt64 := (parseBelow? UInt64.size text).map UInt64.ofNat

end Signet.Decimal
