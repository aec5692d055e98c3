import Signet.Json.Token

/-! Passing over a value that nobody asked for, whatever its depth. -/

namespace Signet.Json

open Reader (peek next skip skipWhile)

/-- What encloses a value. -/
inductive Frame where
  | list
  | object
  deriving DecidableEq, Repr

/-- Where passing over a value has come to: before a value, or inside the innermost frame before its
first item or behind an item. -/
inductive Place where
  | value
  | opened
  | behind
  deriving DecidableEq, Repr

/-- Passes over the digits of an exponent, its mark being next. -/
def skipExponent : Reader Fault Unit := do
  skip
  let _ ← exponentSign
  match ← next with
  | some byte => if Decimal.isDigit byte then skipWhile Decimal.isDigit else throw .invalidNumber
  | none => throw .invalidNumber

/-- Passes over what follows the whole digits of a number. -/
def skipEndNumber : Reader Fault Unit := do
  let following ← peek
  if following = some (ascii '.') then
    skip
    if ← digitNext then
      skipWhile Decimal.isDigit
      if isExponentMark (← peek) then skipExponent else pure ()
    else throw .invalidNumber
  else if isExponentMark following then skipExponent
  else pure ()

/-- Passes over a number after its sign. -/
def skipNumber : Reader Fault Unit := do
  match ← next with
  | none => throw .invalidNumber
  | some byte =>
    if byte = ascii '0' then
      if ← digitNext then throw .invalidNumber else skipEndNumber
    else if Decimal.isDigit byte then
      skipWhile Decimal.isDigit
      skipEndNumber
    else throw .invalidNumber

/-- Passes over a value without items that starts with this byte. -/
def skipScalar (byte : UInt8) : Reader Fault Unit := do
  if byte = ascii 'n' then
    skip
    word (Text.utf8 "ull")
  else if byte = ascii 't' then
    skip
    word (Text.utf8 "rue")
  else if byte = ascii 'f' then
    skip
    word (Text.utf8 "alse")
  else if byte = ascii '-' then
    skip
    skipNumber
  else if Decimal.isDigit byte then skipNumber
  else if byte = ascii '"' then
    skip
    skipString ((← Reader.left) + 1)
  else throw .expectedValue

/-- Takes the colon between a key and its value. -/
def colon : Reader Fault Unit := do
  match ← peekWord with
  | none => throw .endInObject
  | some byte => if byte = ascii ':' then skip else throw .expectedColon

/-- Passes over a key and its colon. -/
def skipKey : Reader Fault Unit := do
  match ← peekWord with
  | none => throw .endInObject
  | some byte =>
    if byte = ascii '"' then
      skip
      skipString ((← Reader.left) + 1)
      colon
    else throw .keyNotText

/-- Passes over what is left of a value inside these frames, innermost first. -/
def skipFrom : Nat → Place → List Frame → Reader Fault Unit
  | 0, _, _ => throw .endInValue
  | fuel + 1, .value, frames => do
    match ← peekWord with
    | none => throw .endInValue
    | some byte =>
      if byte = ascii '[' then
        skip
        skipFrom fuel .opened (.list :: frames)
      else if byte = ascii '\x7b' then
        skip
        skipFrom fuel .opened (.object :: frames)
      else
        skipScalar byte
        if frames.isEmpty then pure () else skipFrom fuel .behind frames
  | _ + 1, _, [] => pure ()
  | fuel + 1, place, frame :: outer => do
    let item : Reader Fault Unit := do
      if frame = .object then skipKey
      skipFrom fuel .value (frame :: outer)
    match ← peekWord with
    | none => throw (if frame = .list then .endInList else .endInObject)
    | some byte =>
      if byte = ascii ',' ∧ place = .behind then
        skip
        item
      else if (byte = ascii ']' ∧ frame = .list) ∨ (byte = ascii '\x7d' ∧ frame = .object) then
        skip
        if outer.isEmpty then pure () else skipFrom fuel .behind outer
      else if place = .behind then
        throw (if frame = .list then .expectedCommaOrBracket else .expectedCommaOrBrace)
      else item

/-- Passes over one value. -/
def skipValue : Reader Fault Unit := do
  skipFrom (2 * (← Reader.left) + 2) .value []

end Signet.Json
