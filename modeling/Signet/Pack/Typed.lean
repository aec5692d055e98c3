import Signet.Pack.Printer
import Signet.Reader

/-! Reading values of a wanted kind from packed form, in one pass from front to back. -/

namespace Signet.Pack

open Reader (peek skip skipWhile)

variable {α σ : Type}

/-- Why packed bytes were not read. -/
inductive Fault where
  /-- The bytes hold another value than the one wanted, or none. -/
  | malformed
  /-- The bytes break off where no reader looks for their end, or a size is less than what it is the
  size of, so that reading cannot go on. -/
  | abort
  deriving DecidableEq, Repr

/-- Takes this many bytes, all of which have to be there. -/
def take (count : Nat) (absent : Fault) : Reader Fault Bytes := fun input =>
  let taken := input.take count
  if taken.length = count then .ok taken (input.drop count) else .error absent input

/-- Takes a number of this many bytes. -/
def sized (width : Nat) (absent : Fault) : Reader Fault Nat := do
  return ofLittleEndian (← take width absent)

/-- The byte that names the kind of the next value; it stays in the input. -/
def lead : Reader Fault UInt8 := do
  match ← peek with
  | some byte => pure byte
  | none => throw .malformed

/-- Reads a whole number below a bound. -/
def below (bound : Nat) : Reader Fault Nat := do
  let byte ← lead
  if 0x30 ≤ byte ∧ byte ≤ 0x39 then
    skip
    pure (byte.toNat - 0x30)
  else if 0x28 ≤ byte ∧ byte ≤ 0x2f then
    skip
    let number ← sized (byte.toNat - 0x27) .abort
    if number < bound then pure number else throw .malformed
  else throw .malformed

/-- Reads a whole number of 64 bits. -/
def unsigned : Reader Fault UInt64 := do
  return UInt64.ofNat (← below UInt64.size)

/-- Reads a byte. -/
def byte : Reader Fault UInt8 := do
  return UInt8.ofNat (← below 256)

/-- Reads `true` or `false`. -/
def boolean : Reader Fault Bool := do
  let byte ← lead
  if byte = 0x19 then
    skip
    pure false
  else if byte = 0x1a then
    skip
    pure true
  else throw .malformed

/-- Takes a text of this many bytes. -/
def textBytes (length : Nat) : Reader Fault String := do
  match Text.ofUtf8? (← take length .abort) with
  | some value => pure value
  | none => throw .malformed

/-- Reads a text. -/
def text : Reader Fault String := do
  let byte ← lead
  if 0x40 ≤ byte ∧ byte ≤ 0xbe then
    skip
    textBytes (byte.toNat - 0x40)
  else if byte = 0xbf then
    skip
    textBytes (← sized 8 .abort)
  else throw .malformed

/-- The width that a lead byte names, if it is one of the four from `first` on. -/
def width? (first byte : UInt8) : Option Nat :=
  if first ≤ byte then widths[byte.toNat - first.toNat]? else none

/-- Passes over zeros, behind which something has to follow. -/
def skipZeros : Reader Fault Unit := do
  skipWhile (· = 0)
  let _ ← lead

/-- Reads this many items. -/
def items (item : Reader Fault α) : Nat → Reader Fault (List α)
  | 0 => pure []
  | count + 1 => do
    let first ← item
    return first :: (← items item count)

/-- What is left of a size behind this many of its bytes; there is no going on with a size that is
less than they are. -/
def behind (size count : Nat) : Reader Fault Nat :=
  if count ≤ size then pure (size - count) else throw .abort

/-- Reads a list without a table: the length of its first item, in the bytes that are left of its
size, tells how many there are. Where the first item takes nothing, or more than is left of the size,
there is no going on, be it an item or not. -/
def evenItems (item : Reader Fault α) (rest : Nat) : Reader Fault (List α) := fun input =>
  match item input with
  | .ok first after =>
    let length := input.length - after.length
    if 0 < length ∧ length ≤ rest then
      match items item (min (rest / length - 1) (after.length + 1)) after with
      | .ok others after => .ok (first :: others) after
      | .error fault after => .error fault after
    else .error .abort after
  | .error fault after =>
    let length := input.length - after.length
    .error (if 0 < length ∧ length ≤ rest then fault else .abort) after

/-- Reads a list. -/
def list (item : Reader Fault α) : Reader Fault (List α) := do
  let byte ← lead
  if byte = 0x01 then
    skip
    pure []
  else
    match width? 0x02 byte, width? 0x06 byte with
    | some width, _ =>
      skip
      let rest ← behind (← sized width .malformed) (1 + width)
      skipZeros
      evenItems item rest
    | none, some width =>
      skip
      let _ ← sized width .abort
      let count ← sized width .abort
      skipZeros
      let values ← items item (min count ((← Reader.left) + 1))
      let _ ← take (count * width) .abort
      pure values
    | none, none => throw .malformed

/-- Reads an object part by part: `members` reads as many parts as it is told. The table behind them is
passed over; it tells nothing that the parts do not tell, and neither does the size in front, which
only has to cover itself and the count. -/
def enclosed (members : Nat → Reader Fault α) : Reader Fault α := do
  let byte ← lead
  if byte = 0x0a then
    skip
    members 0
  else
    match (width? 0x0b byte).or (width? 0x0f byte) with
    | some width =>
      skip
      let _ ← behind (← sized width .malformed) (1 + 2 * width)
      let count ← sized width .malformed
      let value ← members count
      let _ ← take (count * width) .abort
      pure value
    | none => throw .malformed

/-- Reads named values of one kind. -/
def pairs (value : Reader Fault α) : Nat → Reader Fault (List (String × α)) :=
  items do
    let name ← text
    return (name, ← value)

/-- Reads a map from names to values of one kind; names may come more than once. -/
def map (value : Reader Fault α) : Reader Fault (List (String × α)) :=
  enclosed fun count => do pairs value (min count ((← Reader.left) + 1))

/-- A member of a record that is read into a draft of the record. -/
structure Member (σ : Type) where
  name : String
  filled : σ → Bool
  fill : σ → Reader Fault σ

/-- Reads this many members into the draft. One that nobody knows cannot be passed over. -/
def recordMembers (members : List (Member σ)) : Nat → σ → Reader Fault σ
  | 0, draft => pure draft
  | count + 1, draft => do
    let name ← text
    match members.find? (·.name = name) with
    | none => throw .abort
    | some member =>
      if member.filled draft then throw .malformed
      else
        let filled ← member.fill draft
        recordMembers members count filled

/-- Reads a record from an object. -/
def record (members : List (Member σ)) (draft : σ) (finish : σ → Option α) : Reader Fault α := do
  let filled ← enclosed fun count => do
    recordMembers members (min count ((← Reader.left) + 1)) draft
  match finish filled with
  | some value => pure value
  | none => throw .malformed

/-- Nothing may follow a value. -/
def finished (value : Reader Fault α) : Reader Fault α := do
  let found ← value
  match ← peek with
  | none => pure found
  | some _ => throw .malformed

/-- The value that packed bytes hold. -/
def decode (value : Reader Fault α) (input : Bytes) : Except Fault α := (finished value).run input

end Signet.Pack
