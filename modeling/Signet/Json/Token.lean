import Signet.Json.Fault
import Signet.Reader

/-! The words of a JSON text: blanks, literal words, numbers and strings. -/

namespace Signet.Json

open Reader (peek next skip skipWhile)

/-- Space, newline, tab and carriage return stand between the words of a text. -/
def isBlank (byte : UInt8) : Bool := byte = 32 || byte = 10 || byte = 9 || byte = 13

/-- The next byte that is not blank, which stays in the input. -/
def peekWord : Reader Fault (Option UInt8) := do
  skipWhile isBlank
  peek

/-- Takes the rest of a literal word. -/
def word : Bytes → Reader Fault Unit
  | [] => pure ()
  | wanted :: rest => do
    match ← next with
    | none => throw .endInValue
    | some byte => if byte = wanted then word rest else throw .expectedWord

/-- A number as it is written: whole numbers of 64 bits, and all others in floating point. -/
inductive Number where
  | unsigned (value : UInt64)
  | negative (value : Int)
  | float (bits : UInt64)
  deriving DecidableEq, Repr

/-- What a message shows for a number of the wrong kind. -/
def Number.found : Number → Found
  | .unsigned value => .integer value.toNat
  | .negative value => .integer value
  | .float bits => .float bits

/-- Whole numbers are kept exactly below this bound. -/
def wholeBound : Nat := UInt64.size

/-- A power of ten up to the greatest in range, as a floating point number. -/
def powerOfTen (exponent : Nat) : Float := Float.ofScientific 1 false exponent

/-- Scales a floating point number by a power of ten, in steps of at most 308. -/
def scale : Nat → Float → Int → Option Float
  | 0, value, _ => some value
  | fuel + 1, value, exponent =>
    if exponent.natAbs ≤ 308 then
      if 0 ≤ exponent then
        let scaled := value * powerOfTen exponent.natAbs
        if scaled.isInf then none else some scaled
      else some (value / powerOfTen exponent.natAbs)
    else if value == 0 then some value
    else if 0 ≤ exponent then none
    else scale fuel (value / powerOfTen 308) (exponent + 308)

/-- The floating point number `significand * 10 ^ exponent` with a sign, if it is finite. -/
def assemble (positive : Bool) (significand : Nat) (exponent : Int) : Reader Fault Number :=
  match scale 20 (UInt64.ofNat significand).toFloat exponent with
  | none => throw .numberOutOfRange
  | some value => pure (.float (if positive then value else -value).toBits)

/-- The greatest exponent that is counted. -/
def exponentBound : Nat := 0x7fffffff

/-- The digits that come next; they stay in the input. -/
def digitsAhead : Reader Fault Bytes := fun input => .ok (input.takeWhile Decimal.isDigit) input

/-- Takes the digits of an exponent, which come next; `none` if they leave the countable range. -/
def exponentDigits : Bytes → Nat → Reader Fault (Option Nat)
  | [], taken => pure (some taken)
  | byte :: rest, taken => do
    skip
    let grown := taken * 10 + Decimal.digitValue byte
    if exponentBound < grown then pure none else exponentDigits rest grown

/-- An exponent confined to 32 bits. -/
def confined (exponent : Int) : Int :=
  max (-exponentBound - 1) (min exponent exponentBound)

/-- Whether the next byte is a digit. -/
def digitNext : Reader Fault Bool := do
  match ← peek with
  | some byte => pure (Decimal.isDigit byte)
  | none => pure false

/-- Takes a sign; `true` unless it is a minus. -/
def exponentSign : Reader Fault Bool := do
  let sign ← peek
  if sign = some (ascii '+') then
    skip
    pure true
  else if sign = some (ascii '-') then
    skip
    pure false
  else pure true

/-- Takes an exponent, its mark being next, and ends the number. -/
def withExponent (positive : Bool) (significand : Nat) (start : Int) : Reader Fault Number := do
  skip
  let up ← exponentSign
  match ← next with
  | none => throw .endInValue
  | some byte =>
    if Decimal.isDigit byte then
      match ← exponentDigits (← digitsAhead) (Decimal.digitValue byte) with
      | some exponent =>
        assemble positive significand (confined (if up then start + exponent else start - exponent))
      | none =>
        if significand ≠ 0 ∧ up = true then throw .numberOutOfRange
        else
          skipWhile Decimal.isDigit
          pure (.float (if positive then (0.0 : Float) else -0.0).toBits)
    else throw .invalidNumber

/-- Whether the byte is the mark of an exponent. -/
def isExponentMark (byte : Option UInt8) : Bool :=
  byte = some (ascii 'e') || byte = some (ascii 'E')

/-- Ends a number in floating point, taking its exponent if there is one. -/
def endFloat (positive : Bool) (significand : Nat) (exponent : Int) : Reader Fault Number := do
  if isExponentMark (← peek) then withExponent positive significand exponent
  else assemble positive significand exponent

/-- Takes the digits after a point, which come next, and counts them into the significand until one no
longer fits; that one and all later ones are passed over. -/
def fractionDigits : Bytes → Nat → Nat → Reader Fault (Nat × Nat)
  | [], significand, count => pure (significand, count)
  | byte :: rest, significand, count => do
    let grown := significand * 10 + Decimal.digitValue byte
    if grown < wholeBound then
      skip
      fractionDigits rest grown (count + 1)
    else
      skipWhile Decimal.isDigit
      pure (significand, count)

/-- Takes a point and the digits after it, and ends the number. -/
def withFraction (positive : Bool) (significand : Nat) (start : Int) : Reader Fault Number := do
  skip
  if ← digitNext then
    let (grown, count) ← fractionDigits (← digitsAhead) significand 0
    endFloat positive grown (start - count)
  else
    match ← peek with
    | some _ => throw .invalidNumber
    | none => throw .endInValue

/-- The greatest whole number that a minus sign leaves whole. -/
def negativeBound : Nat := 0x8000000000000000

/-- Ends a number after its whole digits. -/
def endWhole (positive : Bool) (significand : Nat) : Reader Fault Number := do
  let following ← peek
  if following = some (ascii '.') then withFraction positive significand 0
  else if isExponentMark following then withExponent positive significand 0
  else if positive then pure (.unsigned (UInt64.ofNat significand))
  else if significand = 0 ∨ negativeBound < significand then
    pure (.float (-(UInt64.ofNat significand).toFloat).toBits)
  else pure (.negative (-(significand : Int)))

/-- Passes over whole digits that no longer fit, and ends the number. -/
def endLong (positive : Bool) (significand : Nat) : Reader Fault Number := do
  let exponent := (← digitsAhead).length
  skipWhile Decimal.isDigit
  if (← peek) = some (ascii '.') then withFraction positive significand exponent
  else endFloat positive significand exponent

/-- Takes whole digits, which come next, as long as they fit, and ends the number. -/
def wholeDigits (positive : Bool) : Bytes → Nat → Reader Fault Number
  | [], significand => endWhole positive significand
  | byte :: rest, significand => do
    let grown := significand * 10 + Decimal.digitValue byte
    if grown < wholeBound then
      skip
      wholeDigits positive rest grown
    else endLong positive significand

/-- Takes a number after its sign. A zero at the front stands alone. -/
def number (positive : Bool) : Reader Fault Number := do
  match ← next with
  | none => throw .endInValue
  | some byte =>
    if byte = ascii '0' then
      if ← digitNext then throw .invalidNumber else endWhole positive 0
    else if Decimal.isDigit byte then
      wholeDigits positive (← digitsAhead) (Decimal.digitValue byte)
    else throw .invalidNumber

/-- The number that a hexadecimal digit stands for. -/
def hexValue? (byte : UInt8) : Option Nat :=
  if ascii '0' ≤ byte ∧ byte ≤ ascii '9' then some (byte.toNat - 48)
  else if ascii 'a' ≤ byte ∧ byte ≤ ascii 'f' then some (byte.toNat - 87)
  else if ascii 'A' ≤ byte ∧ byte ≤ ascii 'F' then some (byte.toNat - 55)
  else none

/-- Takes four hexadecimal digits. -/
def hexFour : Reader Fault Nat := fun input =>
  match input with
  | first :: second :: third :: fourth :: rest =>
    match hexValue? first, hexValue? second, hexValue? third, hexValue? fourth with
    | some first, some second, some third, some fourth =>
      .ok (((first * 16 + second) * 16 + third) * 16 + fourth) rest
    | _, _, _, _ => .error .invalidEscape rest
  | _ => .error .endInString []

/-- Whether the code starts a pair of two escapes for one character. -/
def leadsPair (code : Nat) : Bool := 0xD800 ≤ code && code ≤ 0xDBFF

/-- Whether the code ends a pair of two escapes for one character. -/
def endsPair (code : Nat) : Bool := 0xDC00 ≤ code && code ≤ 0xDFFF

/-- Takes one byte inside an escape that goes on. -/
def pairByte (wanted : UInt8) : Reader Fault Unit := do
  match ← next with
  | none => throw .endInString
  | some byte => if byte = wanted then pure () else throw .endOfHexEscape

/-- Takes a character given by number, its backslash and letter having been taken. -/
def unicodeEscape : Reader Fault Bytes := do
  let first ← hexFour
  if endsPair first then throw .loneSurrogate
  else if leadsPair first then
    pairByte (ascii '\\')
    pairByte (ascii 'u')
    let second ← hexFour
    if endsPair second then
      pure (String.utf8EncodeChar
        (Char.ofNat ((first - 0xD800) * 0x400 + (second - 0xDC00) + 0x10000)))
    else throw .loneSurrogate
  else pure (String.utf8EncodeChar (Char.ofNat first))

/-- The byte that a short escape stands for. -/
def shortEscape? (byte : UInt8) : Option UInt8 :=
  if byte = ascii '"' then some byte
  else if byte = ascii '\\' then some byte
  else if byte = ascii '/' then some byte
  else if byte = ascii 'b' then some 8
  else if byte = ascii 'f' then some 12
  else if byte = ascii 'n' then some 10
  else if byte = ascii 'r' then some 13
  else if byte = ascii 't' then some 9
  else none

/-- Takes an escape after its backslash. -/
def escape : Reader Fault Bytes := do
  match ← next with
  | none => throw .endInString
  | some byte =>
    if byte = ascii 'u' then unicodeEscape
    else
      match shortEscape? byte with
      | some plain => pure [plain]
      | none => throw .invalidEscape

/-- Takes an escape after its backslash, whatever it stands for. -/
def skipEscape : Reader Fault Unit := do
  match ← next with
  | none => throw .endInString
  | some byte =>
    if byte = ascii 'u' then
      let _ ← hexFour
      pure ()
    else if (shortEscape? byte).isSome then pure ()
    else throw .invalidEscape

/-- Takes a string up to its closing quote. -/
def stringBytes : Nat → Bytes → Reader Fault Bytes
  | 0, _ => throw .endInString
  | fuel + 1, taken => do
    match ← next with
    | none => throw .endInString
    | some byte =>
      if byte = ascii '"' then pure taken.reverse
      else if byte = ascii '\\' then
        let plain ← escape
        stringBytes fuel (plain.reverse ++ taken)
      else if byte < 32 then throw .controlCharacter
      else stringBytes fuel (byte :: taken)

/-- Takes a string after its opening quote. -/
def stringText : Reader Fault String := do
  let bytes ← stringBytes ((← Reader.left) + 1) []
  match Text.ofUtf8? bytes with
  | some text => pure text
  | none => throw .invalidUnicode

/-- Passes over a string after its opening quote. -/
def skipString : Nat → Reader Fault Unit
  | 0 => throw .endInString
  | fuel + 1 => do
    match ← next with
    | none => throw .endInString
    | some byte =>
      if byte = ascii '"' then pure ()
      else if byte = ascii '\\' then
        skipEscape
        skipString fuel
      else if byte < 32 then throw .controlCharacter
      else skipString fuel

end Signet.Json
