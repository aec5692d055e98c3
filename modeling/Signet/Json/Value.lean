import Signet.Json.Typed

/-! Values of any kind, kept as they were read, and what a reader of such a value wants it to be. -/

namespace Signet.Json

open Reader (skip)

variable {α : Type}

/-- A value of any kind; the members of an object stand in reading order and may repeat a name. -/
inductive Value where
  | null
  | boolean (value : Bool)
  | number (value : Number)
  | text (value : String)
  | list (items : List Value)
  | object (members : List (String × Value))

/-- The depth to which values may enclose each other. -/
def deepest : Nat := 128

/-- Reads a value of any kind with at most `depth` more values around each other. -/
def anyValue : (depth : Nat) → Reader Fault Value
  | 0 => throw .tooDeep
  | depth + 1 => do
    match ← peekWord with
    | none => throw .endInValue
    | some byte =>
      if byte = ascii '[' then
        if depth = 0 then throw .tooDeep else return .list (← list (anyValue depth))
      else if byte = ascii '\x7b' then
        if depth = 0 then throw .tooDeep else return .object (← map (anyValue depth))
      else if byte = ascii '-' then
        skip
        return .number (← number false)
      else if Decimal.isDigit byte then return .number (← number true)
      else if byte = ascii '"' then
        skip
        return .text (← stringText)
      else
        skipScalar byte
        return if byte = ascii 'n' then .null else .boolean (byte = ascii 't')

namespace Value

/-- How a message names a value. -/
def found : Value → Found
  | null => .null
  | boolean value => .boolean value
  | number value => value.found
  | text value => .text value
  | list _ => .list
  | object _ => .object

/-- The value is of another kind. -/
def wrong (wanted : String) (value : Value) : Except Fault α := .error (.wrongKind value.found wanted)

/-- The value has to be a text. -/
def toText : Value → Except Fault String
  | text value => .ok value
  | other => other.wrong "a string"

/-- The value has to be a list of what the items have to be. -/
def toList (item : Value → Except Fault α) : Value → Except Fault (List α)
  | list items => items.mapM item
  | other => other.wrong "a sequence"

/-- The value may be null. -/
def toOption (some : Value → Except Fault α) : Value → Except Fault (Option α)
  | null => .ok none
  | other => Option.some <$> some other

/-- The value has to be one of some names: a text, or an object whose only member has that name and a
value that `empty` accepts. -/
def toName (names : List String) (empty : Value → Bool) : Value → Except Fault String
  | text name => if names.contains name then .ok name else .error (.unknownName name names)
  | object [(name, value)] =>
    if names.contains name then
      if empty value then .ok name else value.wrong "unit"
    else .error (.unknownName name names)
  | object _ => .error (.wrongValue .object "map with a single key")
  | other => other.wrong "string or map"

/-- Whether the value is null. -/
def isNull : Value → Bool
  | null => true
  | _ => false

/-- Whether the value is null or an object without members. -/
def isVoid : Value → Bool
  | null => true
  | object [] => true
  | _ => false

end Value
end Signet.Json
