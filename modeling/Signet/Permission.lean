import Signet.Json.Typed
import Signet.Json.Printer

/-! Sets of capabilities, one bit each. Only 53 bits exist, so that a set survives as a JSON number
for readers that hold numbers in floating point. -/

namespace Signet

/-- A set of capabilities. -/
structure Permission where
  bits : BitVec 53
  deriving DecidableEq, Repr

namespace Permission

/-- Number of low bits that no capability uses. -/
def needle : Nat := 4

/-- The number whose bits are the usable ones. -/
def mask : Nat := 0x1fffffffffffff

/-- The set as a number. -/
def toNat (permission : Permission) : Nat := permission.bits.toNat

/-- The set with these bits; bits beyond the usable ones are dropped. -/
def ofBits (bits : UInt64) : Permission := ⟨bits.toBitVec.setWidth 53⟩

/-- The single capability with this index. -/
def elementary (index : Nat) : Permission := ⟨BitVec.twoPow 53 (needle + index)⟩

/-- The empty set. -/
def empty : Permission := ⟨0⟩

def createAccount : Permission := elementary 0
def readAccount : Permission := elementary 1
def updateAccount : Permission := elementary 2
def deleteAccount : Permission := elementary 3
def uploadImage : Permission := elementary 4
def readFortune : Permission := elementary 5
def searchGraph : Permission := elementary 6

def grantPermission : Permission := elementary 16
def revokeSession : Permission := elementary 17

/-- The union of two sets. -/
def union (first second : Permission) : Permission := ⟨first.bits ||| second.bits⟩

instance : OrOp Permission := ⟨union⟩

/-- Whether the set holds every capability that is required; an empty requirement always holds. -/
def hasAll (granted required : Permission) : Bool := granted.bits &&& required.bits = required.bits

/-- Whether the set is empty. -/
def isEmpty (permission : Permission) : Bool := permission.bits = 0

/-- The set as a decimal number. -/
def text (permission : Permission) : String := toString permission.toNat

/-- What messages call a set. -/
def kind : String := "a 53-bit permission mask"

/-- The set with the bits of a whole number, if no bit is beyond the usable ones. -/
def ofUnsigned (value : UInt64) : Except Json.Fault Permission :=
  if value.toNat ≤ mask then .ok (ofBits value)
  else .error (.wrongValue (.integer value.toNat) kind)

/-- The set with the bits of a whole number that has a sign. -/
def ofSigned (value : Int64) : Except Json.Fault Permission :=
  if 0 ≤ value then ofUnsigned value.toUInt64
  else .error (.wrongValue (.integer value.toInt) kind)

/-- The set that a JSON number stands for. -/
def ofNumber (number : Json.Number) : Except Json.Fault Permission :=
  match number with
  | .unsigned value => ofUnsigned value
  | .negative value => .error (.wrongValue (.integer value) kind)
  | .float bits => .error (.wrongKind (.float bits) kind)

/-- Reads a set from JSON. -/
def read : Reader Json.Fault Permission := Json.numeric kind ofNumber

/-- The JSON text of a set. -/
def json (permission : Permission) : Bytes := Json.Print.natural permission.toNat

end Permission
end Signet
