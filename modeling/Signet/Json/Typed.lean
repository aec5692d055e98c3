import Signet.Json.Skip

/-! Reading values of a wanted kind: the first fault in reading order is the answer, be it that the
text is no JSON or that a value is of another kind. -/

namespace Signet.Json

open Reader (peek next skip closing)

variable {α σ : Type}

/-- Fails because the value that starts here is of another kind, or no value at all. -/
def wrong (wanted : String) (byte : UInt8) : Reader Fault α := do
  if byte = ascii 'n' then
    skip
    word (Text.utf8 "ull")
    throw (.wrongKind .null wanted)
  else if byte = ascii 't' then
    skip
    word (Text.utf8 "rue")
    throw (.wrongKind (.boolean true) wanted)
  else if byte = ascii 'f' then
    skip
    word (Text.utf8 "alse")
    throw (.wrongKind (.boolean false) wanted)
  else if byte = ascii '-' then
    skip
    throw (.wrongKind (← number false).found wanted)
  else if Decimal.isDigit byte then throw (.wrongKind (← number true).found wanted)
  else if byte = ascii '"' then
    skip
    throw (.wrongKind (.text (← stringText)) wanted)
  else if byte = ascii '[' then throw (.wrongKind .list wanted)
  else if byte = ascii '\x7b' then throw (.wrongKind .object wanted)
  else throw .expectedValue

/-- Reads a number; `accept` decides whether it is one of those wanted. -/
def numeric (wanted : String) (accept : Number → Except Fault α) : Reader Fault α := do
  match ← peekWord with
  | none => throw .endInValue
  | some byte =>
    if byte = ascii '-' then
      skip
      MonadExcept.ofExcept (accept (← number false))
    else if Decimal.isDigit byte then MonadExcept.ofExcept (accept (← number true))
    else wrong wanted byte

/-- Accepts whole numbers below a bound. -/
def acceptBelow (bound : Nat) (wanted : String) (number : Number) : Except Fault UInt64 :=
  match number with
  | .unsigned value =>
    if value.toNat < bound then .ok value else .error (.wrongValue number.found wanted)
  | .negative _ => .error (.wrongValue number.found wanted)
  | .float _ => .error (.wrongKind number.found wanted)

/-- Reads a whole number of 64 bits. -/
def unsigned (wanted : String) : Reader Fault UInt64 := numeric wanted (acceptBelow wholeBound wanted)

/-- Reads a byte. -/
def byte : Reader Fault UInt8 := do
  return (← numeric "u8" (acceptBelow 256 "u8")).toUInt8

/-- Reads a text. -/
def text : Reader Fault String := do
  match ← peekWord with
  | none => throw .endInValue
  | some byte =>
    if byte = ascii '"' then
      skip
      stringText
    else wrong "a string" byte

/-- Reads `true` or `false`. -/
def boolean : Reader Fault Bool := do
  match ← peekWord with
  | none => throw .endInValue
  | some byte =>
    if byte = ascii 't' then
      skip
      word (Text.utf8 "rue")
      pure true
    else if byte = ascii 'f' then
      skip
      word (Text.utf8 "alse")
      pure false
    else wrong "a boolean" byte

/-- Reads `null` or a value. -/
def nullable (value : Reader Fault α) : Reader Fault (Option α) := do
  if (← peekWord) = some (ascii 'n') then
    skip
    word (Text.utf8 "ull")
    pure none
  else
    return some (← value)

/-- Whether a list goes on, behind an item or at its start; takes the comma if it does. -/
def moreItems (start : Bool) : Reader Fault Bool := do
  match ← peekWord with
  | none => throw .endInList
  | some byte =>
    if byte = ascii ']' then pure false
    else if start then pure true
    else if byte = ascii ',' then
      skip
      match ← peekWord with
      | none => throw .endInValue
      | some byte => if byte = ascii ']' then throw .trailingComma else pure true
    else throw .expectedCommaOrBracket

/-- Takes the end of a list. -/
def endList : Reader Fault Unit := do
  match ← peekWord with
  | none => throw .endInList
  | some byte =>
    if byte = ascii ']' then skip
    else if byte = ascii ',' then
      skip
      if (← peekWord) = some (ascii ']') then throw .trailingComma else throw .trailingCharacters
    else throw .trailingCharacters

/-- Reads the items of a list, the last one read first. -/
def items (item : Reader Fault α) : Nat → Bool → List α → Reader Fault (List α)
  | 0, _, _ => throw .endInList
  | fuel + 1, start, taken => do
    if ← moreItems start then
      let value ← item
      items item fuel false (value :: taken)
    else pure taken.reverse

/-- Reads a list. -/
def list (item : Reader Fault α) : Reader Fault (List α) := do
  match ← peekWord with
  | none => throw .endInValue
  | some byte =>
    if byte = ascii '[' then
      skip
      closing (items item ((← Reader.left) + 1) true []) endList
    else wrong "a sequence" byte

/-- Whether an object goes on, behind a member or at its start; takes the comma if it does. -/
def moreMembers (start : Bool) : Reader Fault Bool := do
  match ← peekWord with
  | none => throw .endInObject
  | some byte =>
    if byte = ascii '\x7d' then pure false
    else if start then
      if byte = ascii '"' then pure true else throw .keyNotText
    else if byte = ascii ',' then
      skip
      match ← peekWord with
      | none => throw .endInValue
      | some byte =>
        if byte = ascii '"' then pure true
        else if byte = ascii '\x7d' then throw .trailingComma
        else throw .keyNotText
    else throw .expectedCommaOrBrace

/-- Takes the end of an object. -/
def endObject : Reader Fault Unit := do
  match ← peekWord with
  | none => throw .endInObject
  | some byte =>
    if byte = ascii '\x7d' then skip
    else if byte = ascii ',' then throw .trailingComma
    else throw .trailingCharacters

/-- Reads the pairs of a map from keys to values of one kind, the last one read first. -/
def pairs (value : Reader Fault α) : Nat → Bool → List (String × α) →
    Reader Fault (List (String × α))
  | 0, _, _ => throw .endInObject
  | fuel + 1, start, taken => do
    if ← moreMembers start then
      skip
      let key ← stringText
      colon
      let found ← value
      pairs value fuel false ((key, found) :: taken)
    else pure taken.reverse

/-- Reads a map from keys to values of one kind; keys may come more than once. -/
def map (value : Reader Fault α) : Reader Fault (List (String × α)) := do
  match ← peekWord with
  | none => throw .endInValue
  | some byte =>
    if byte = ascii '\x7b' then
      skip
      closing (pairs value ((← Reader.left) + 1) true []) endObject
    else wrong "a map" byte

/-- When a member of a record may be left out. -/
inductive Presence where
  | required
  /-- Left out of an object, but not of a list. -/
  | nullable
  | defaulted
  deriving DecidableEq, Repr

/-- A member of a record that is read into a draft of the record. -/
structure Member (σ : Type) where
  name : String
  presence : Presence
  filled : σ → Bool
  fill : σ → Reader Fault σ

/-- Reads the members of an object into the draft; members that nobody asked for are passed over. -/
def objectMembers (members : List (Member σ)) : Nat → Bool → σ → Reader Fault σ
  | 0, _, _ => throw .endInObject
  | fuel + 1, start, draft => do
    if ← moreMembers start then
      skip
      let key ← stringText
      match members.find? (·.name = key) with
      | none =>
        colon
        skipValue
        objectMembers members fuel false draft
      | some member =>
        if member.filled draft then throw (.repeatedMember key)
        else
          colon
          let filled ← member.fill draft
          objectMembers members fuel false filled
    else pure draft

/-- Reads the members from a list that holds them in order; `index` counts the members passed and
`start` tells that no item has been read. -/
def listMembers (kind : String) : List (Member σ) → Nat → Bool → σ → Reader Fault σ
  | [], _, _, draft => pure draft
  | member :: rest, index, start, draft => do
    if ← moreItems start then
      let filled ← member.fill draft
      listMembers kind rest (index + 1) false filled
    else if member.presence = .defaulted then listMembers kind rest (index + 1) start draft
    else throw (.wrongLength index kind)

/-- How a message counts the members of a record. -/
def counted (kind : String) (count : Nat) : String :=
  let ending := if count = 1 then "" else "s"
  s!"{kind} with {count} element{ending}"

/-- Reads a record from an object, or from a list of its members. -/
def record (kind : String) (members : List (Member σ)) (draft : σ)
    (finish : σ → Except Fault α) : Reader Fault α := do
  match ← peekWord with
  | none => throw .endInValue
  | some byte =>
    if byte = ascii '[' then
      skip
      let body := do
        let filled ← listMembers (counted kind members.length) members 0 true draft
        MonadExcept.ofExcept (finish filled)
      closing body endList
    else if byte = ascii '\x7b' then
      skip
      let body := do
        let filled ← objectMembers members ((← Reader.left) + 1) true draft
        MonadExcept.ofExcept (finish filled)
      closing body endObject
    else wrong kind byte

/-- The value of a member that had to be there. -/
def Member.demand (name : String) (found : Option α) : Except Fault α :=
  match found with
  | some value => .ok value
  | none => .error (.missingMember name)

/-- Nothing but blanks may follow a value. -/
def finished (value : Reader Fault α) : Reader Fault α := do
  let found ← value
  match ← peekWord with
  | none => pure found
  | some _ => throw .trailingCharacters

/-- The value that a whole text holds. -/
def decode (value : Reader Fault α) (input : Bytes) : Except Fault α := (finished value).run input

end Signet.Json
