import Signet.Json.Typed
import Signet.Json.Printer

/-! Signing keys. Messages never show more of a key than its length. -/

namespace Signet

/-- A symmetric signing key. -/
structure Secret where
  bytes : Bytes
  deriving DecidableEq, Repr

namespace Secret

def length (secret : Secret) : Nat := secret.bytes.length

/-- The number of bytes that can be laid out in a row. Whoever asks for a longer key breaks off; for
any other, memory is taken to be enough. -/
def greatestLength : Nat := 9223372036854775807

def isEmpty (secret : Secret) : Bool := secret.bytes.isEmpty

/-- What messages show of a key. -/
def shown (secret : Secret) : String := s!"Secret({secret.length} bytes)"

/-- What the names of keys in the store begin with. -/
def keyStart : String := "secret:"

/-- The name under which the store holds the key of a subject. -/
def key (subject : String) : String := keyStart ++ subject

theorem key_injective {first second : String} (same : key first = key second) :
    first = second := by
  have bytes := congrArg Text.utf8 same
  simp only [key, Text.utf8_append, List.append_cancel_left_eq] at bytes
  exact Text.utf8_injective bytes

/-- The JSON text of a key, a list of bytes. -/
def json (secret : Secret) : Bytes :=
  Json.Print.list (secret.bytes.map fun byte => Json.Print.natural byte.toNat)

/-- Reads a key from JSON. -/
def read : Reader Json.Fault Secret := do
  return ⟨← Json.list Json.byte⟩

end Secret
end Signet
