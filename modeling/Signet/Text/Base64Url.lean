import Signet.Text.Utf8

/-! Byte strings as texts of 64 symbols that need no escaping in an address, without padding. Only
the written form of a byte string is read back: bits that stand for nothing must be zero. -/

namespace Signet.Base64Url

/-- Why a text is not the written form of a byte string. -/
inductive Fault where
  | symbol (byte : UInt8) (offset : Nat)
  | lastSymbol (byte : UInt8) (offset : Nat)
  | length (count : Nat)
  | padding
  deriving DecidableEq, Repr

/-- The wording of each fault. -/
def Fault.message : Fault → String
  | .symbol byte offset => s!"Invalid symbol {byte.toNat}, offset {offset}."
  | .lastSymbol byte offset => s!"Invalid last symbol {byte.toNat}, offset {offset}."
  | .length count => s!"Invalid input length: {count}"
  | .padding => "Invalid padding"

/-- The symbol of a number below 64. -/
def symbol (value : Nat) : UInt8 :=
  if value < 26 then UInt8.ofNat (65 + value)
  else if value < 52 then UInt8.ofNat (71 + value)
  else if value < 62 then UInt8.ofNat (value - 4)
  else if value = 62 then ascii '-'
  else ascii '_'

/-- The number that a symbol stands for. -/
def value? (byte : UInt8) : Option Nat :=
  if ascii 'A' ≤ byte ∧ byte ≤ ascii 'Z' then some (byte.toNat - 65)
  else if ascii 'a' ≤ byte ∧ byte ≤ ascii 'z' then some (byte.toNat - 71)
  else if ascii '0' ≤ byte ∧ byte ≤ ascii '9' then some (byte.toNat + 4)
  else if byte = ascii '-' then some 62
  else if byte = ascii '_' then some 63
  else none

/-- The written form of a byte string: four symbols for three bytes. -/
def encode : Bytes → Bytes
  | first :: second :: third :: rest =>
    symbol (first.toNat / 4) :: symbol (first.toNat % 4 * 16 + second.toNat / 16) ::
      symbol (second.toNat % 16 * 4 + third.toNat / 64) :: symbol (third.toNat % 64) :: encode rest
  | [first, second] =>
    [symbol (first.toNat / 4), symbol (first.toNat % 4 * 16 + second.toNat / 16),
      symbol (second.toNat % 16 * 4)]
  | [first] => [symbol (first.toNat / 4), symbol (first.toNat % 4 * 16)]
  | [] => []

/-- The bytes of a group of at most four numbers; bits beyond the last whole byte are dropped. -/
def groupBytes : List Nat → Bytes
  | [first, second] => [UInt8.ofNat (first * 4 + second / 16)]
  | [first, second, third] =>
    [UInt8.ofNat (first * 4 + second / 16), UInt8.ofNat (second % 16 * 16 + third / 4)]
  | [first, second, third, fourth] =>
    [UInt8.ofNat (first * 4 + second / 16), UInt8.ofNat (second % 16 * 16 + third / 4),
      UInt8.ofNat (third % 4 * 64 + fourth)]
  | _ => []

/-- The last number of a group and the part of it that stands for nothing. -/
def spare : List Nat → Option (Nat × Nat)
  | [_, second] => some (second, second % 16)
  | [_, _, third] => some (third, third % 4)
  | _ => none

/-- The number of the symbol at this offset. -/
def valueAt (offset : Nat) (byte : UInt8) : Except Fault Nat :=
  match value? byte with
  | some value => .ok value
  | none => .error (.symbol byte offset)

/-- The sign that fills up a last group elsewhere; it is no symbol. -/
def pad : UInt8 := ascii '='

/-- The numbers of the last group and whether it was filled up. A sign that fills up may only follow
two symbols and nothing may follow it. -/
def lastGroup (offset : Nat) : Nat → List Nat → Option Nat → Bytes → Except Fault (List Nat × Bool)
  | _, values, filled, [] => .ok (values, filled.isSome)
  | index, values, filled, byte :: rest =>
    if byte = pad then
      if index < 2 then .error (.symbol byte (offset + index))
      else lastGroup offset (index + 1) values (filled.or (some index)) rest
    else
      match filled with
      | some first => .error (.symbol pad (offset + first))
      | none => do
        let value ← valueAt (offset + index) byte
        lastGroup offset (index + 1) (values ++ [value]) none rest

/-- The bytes of the last group, which starts at this offset. -/
def decodeLast (offset : Nat) (group : Bytes) : Except Fault Bytes := do
  let (values, filled) ← lastGroup offset 0 [] none group
  if group ≠ [] ∧ values.length < 2 then throw (.length (offset + values.length))
  if filled then throw .padding
  match spare values with
  | some (value, extra) =>
    if extra ≠ 0 then throw (.lastSymbol (symbol value) (offset + values.length - 1))
    else return groupBytes values
  | none => return groupBytes values

/-- The bytes written from this offset on. -/
def decodeFrom (offset : Nat) : Bytes → Except Fault Bytes
  | first :: second :: third :: fourth :: next :: rest => do
    let first ← valueAt offset first
    let second ← valueAt (offset + 1) second
    let third ← valueAt (offset + 2) third
    let fourth ← valueAt (offset + 3) fourth
    let bytes ← decodeFrom (offset + 4) (next :: rest)
    return groupBytes [first, second, third, fourth] ++ bytes
  | group => decodeLast offset group

/-- The byte string with this written form. A lone last symbol that is none is found first. -/
def decode (text : Bytes) : Except Fault Bytes :=
  match text.getLast? with
  | some last =>
    if text.length % 4 = 1 ∧ last ≠ pad ∧ value? last = none then
      .error (.symbol last (text.length - 1))
    else decodeFrom 0 text
  | none => decodeFrom 0 text

end Signet.Base64Url
