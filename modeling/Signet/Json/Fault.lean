import Signet.Decimal.Shortest
import Signet.Text.Quoted

/-! What can be wrong with a JSON text, first where it is not JSON at all and then where a value is
not of the kind that its reader wants. -/

namespace Signet.Json

/-- What stood where another kind of value was wanted. -/
inductive Found where
  | integer (value : Int)
  /-- A floating point number, by its bits. -/
  | float (bits : UInt64)
  | text (value : String)
  | boolean (value : Bool)
  | null
  | list
  | object
  deriving DecidableEq, Repr

/-- Why a JSON text was not read. -/
inductive Fault where
  | endInValue
  | endInList
  | endInObject
  | endInString
  | expectedValue
  | expectedWord
  | expectedColon
  | expectedCommaOrBracket
  | expectedCommaOrBrace
  | keyNotText
  | trailingComma
  | trailingCharacters
  | invalidNumber
  | numberOutOfRange
  | invalidEscape
  | endOfHexEscape
  | loneSurrogate
  | invalidUnicode
  | controlCharacter
  | tooDeep
  | wrongKind (found : Found) (wanted : String)
  | wrongValue (found : Found) (wanted : String)
  | wrongLength (length : Nat) (wanted : String)
  | missingMember (name : String)
  | repeatedMember (name : String)
  /-- A name that is none of those known. -/
  | unknownName (name : String) (known : List String)
  /-- An object that is no key of a known kind. -/
  | noKey
  deriving DecidableEq, Repr

/-- Floating point numbers in messages always have a point or an exponent, and exponents always a
sign. -/
def floatLayout : Decimal.Layout where
  leastPlain := -5
  greatestPlain := 15
  plus := true

/-- How a message names what stood in the text. -/
def Found.describe : Found → String
  | .integer value => s!"integer `{value}`"
  | .float bits => s!"floating point `{Text.ofAscii (floatLayout.float bits)}`"
  | .text value => s!"string {Text.quoted value}"
  | .boolean value => s!"boolean `{value}`"
  | .null => "null"
  | .list => "sequence"
  | .object => "map"

/-- Names to choose from, of which there are more than two. -/
def choices (names : List String) : String :=
  "one of " ++ ", ".intercalate (names.map fun name => s!"`{name}`")

/-- The wording of each fault. -/
def Fault.message : Fault → String
  | .endInValue => "EOF while parsing a value"
  | .endInList => "EOF while parsing a list"
  | .endInObject => "EOF while parsing an object"
  | .endInString => "EOF while parsing a string"
  | .expectedValue => "expected value"
  | .expectedWord => "expected ident"
  | .expectedColon => "expected `:`"
  | .expectedCommaOrBracket => "expected `,` or `]`"
  | .expectedCommaOrBrace => "expected `,` or `\x7d`"
  | .keyNotText => "key must be a string"
  | .trailingComma => "trailing comma"
  | .trailingCharacters => "trailing characters"
  | .invalidNumber => "invalid number"
  | .numberOutOfRange => "number out of range"
  | .invalidEscape => "invalid escape"
  | .endOfHexEscape => "unexpected end of hex escape"
  | .loneSurrogate => "lone leading surrogate in hex escape"
  | .invalidUnicode => "invalid unicode code point"
  | .controlCharacter => "control character (\\u0000-\\u001F) found while parsing a string"
  | .tooDeep => "recursion limit exceeded"
  | .wrongKind found wanted => s!"invalid type: {found.describe}, expected {wanted}"
  | .wrongValue found wanted => s!"invalid value: {found.describe}, expected {wanted}"
  | .wrongLength length wanted => s!"invalid length {length}, expected {wanted}"
  | .missingMember name => s!"missing field `{name}`"
  | .repeatedMember name => s!"duplicate field `{name}`"
  | .unknownName name known => s!"unknown variant `{name}`, expected {choices known}"
  | .noKey => "data did not match any variant of untagged enum AlgorithmParameters"

end Signet.Json
