import Signet.Algorithm
import Signet.Json.Typed
import Signet.Json.Printer
import Signet.Token.Key

/-! The header of a token. It is read twice: first for the name of its algorithm alone, then for all
members that a header may have. -/

namespace Signet.Token

open Json (Member)

/-- The JSON text of the header of a token. -/
def headerJson (algorithm : Algorithm) : Bytes :=
  Json.Print.object [("typ", Json.Print.text "JWT"), ("alg", Json.Print.text algorithm.name)]

/-- Reads the name of the algorithm, whatever else the header holds. -/
def readAlgorithmName : Reader Json.Fault String :=
  Json.record "struct RawHeader"
    [⟨"alg", .required, Option.isSome, fun _ => do return some (← Json.text)⟩]
    none (Member.demand "alg")

/-- Marks a member of a header as read, its value being no matter. -/
private def marked (name : String) (presence : Json.Presence) (value : Reader Json.Fault Unit) :
    Member (List String) :=
  ⟨name, presence, (·.contains name), fun seen => do
    value
    return name :: seen⟩

private def textOrNull : Reader Json.Fault Unit := do
  let _ ← Json.nullable Json.text

/-- Reads a key, which two values enclose at least: itself and the header. -/
private def readKey : Reader Json.Fault Unit := Key.read (Json.deepest - 2)

/-- The members of a header. -/
def headerMembers : List (Member (List String)) := [
  marked "typ" .nullable textOrNull,
  marked "alg" .required (do let _ ← Json.text),
  marked "cty" .nullable textOrNull,
  marked "jku" .nullable textOrNull,
  marked "jwk" .nullable (do let _ ← Json.nullable readKey),
  marked "kid" .nullable textOrNull,
  marked "x5u" .nullable textOrNull,
  marked "x5c" .nullable (do let _ ← Json.nullable (Json.list Json.text)),
  marked "x5t" .nullable textOrNull,
  marked "x5t#S256" .nullable textOrNull]

/-- Reads a whole header. -/
def readHeader : Reader Json.Fault Unit :=
  Json.record "struct Header" headerMembers [] fun seen =>
    if seen.contains "alg" then .ok () else .error (.missingMember "alg")

end Signet.Token
