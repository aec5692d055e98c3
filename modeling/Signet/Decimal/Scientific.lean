import Signet.Decimal.Nearest

/-! Floating point numerals as people write them: a sign, digits with a point among them or at either
end, and an exponent; or a word for infinity or for no number at all. -/

namespace Signet.Decimal

/-- The bits of what is no number. -/
def notNumberBits : Nat := 0x7ff8000000000000

/-- The number in a run of digits. -/
def runValue (run : List Char) : Nat :=
  run.foldl (fun number char => number * 10 + (char.toNat - 48)) 0

/-- The exponent behind its mark: a sign perhaps, and at least one digit. -/
def exponent? (text : List Char) : Option Int :=
  let signed := fun (run : List Char) (sign : Int) =>
    if run ≠ [] ∧ run.all Char.isDigit = true then some (sign * runValue run) else none
  match text with
  | '-' :: run => signed run (-1)
  | '+' :: run => signed run 1
  | run => signed run 1

/-- The bits of a numeral without a sign. -/
def unsignedNumeral? (text : List Char) : Option Nat :=
  let whole := text.takeWhile Char.isDigit
  let (fraction, tail) :=
    match text.dropWhile Char.isDigit with
    | '.' :: more => (more.takeWhile Char.isDigit, more.dropWhile Char.isDigit)
    | tail => ([], tail)
  let exponent :=
    match tail with
    | [] => some 0
    | mark :: more => if mark = 'e' ∨ mark = 'E' then exponent? more else none
  if whole = [] ∧ fraction = [] then none
  else exponent.map fun exponent =>
    nearestDecimal (runValue (whole ++ fraction)) (exponent - fraction.length)

/-- The bits of a numeral or a word without a sign. -/
def unsignedFloat? (text : List Char) : Option Nat :=
  let word := String.ofList (text.map Char.toLower)
  if word = "inf" ∨ word = "infinity" then some infinityBits
  else if word = "nan" then some notNumberBits
  else unsignedNumeral? text

/-- The bits of the floating point number that a text stands for. -/
def float? (text : String) : Option UInt64 :=
  let bits :=
    match text.toList with
    | '-' :: rest => (unsignedFloat? rest).map (signBit + ·)
    | '+' :: rest => unsignedFloat? rest
    | rest => unsignedFloat? rest
  bits.map UInt64.ofNat

end Signet.Decimal
