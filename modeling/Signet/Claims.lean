import Signet.Clock
import Signet.Error
import Signet.Permission

/-! The signed payload of a token, and its JSON form. -/

namespace Signet

/-- What a token says: for whom it was issued, with which permissions, by whom, and when it counts. -/
structure Claims where
  subject : String
  permissions : Permission
  issuedAt : Timestamp
  notBefore : Timestamp
  expiresAt : Timestamp
  issuer : String
  deriving DecidableEq, Repr

namespace Claims

/-- A subject is there, and the times are in order. -/
def check (claims : Claims) : Except AuthError Unit :=
  if claims.subject = "" then .error .missingSubject
  else if claims.notBefore < claims.issuedAt ∨ claims.expiresAt < claims.notBefore then
    .error (.malformed .claimsOutOfOrder)
  else .ok ()

/-- The claims of a token issued at a moment for a number of seconds. -/
def issue (subject : String) (permissions : Permission) (issuedAt lifetime : UInt64)
    (issuer : String) : Except AuthError Claims :=
  let claims : Claims :=
    { subject, permissions, issuedAt, notBefore := issuedAt
      expiresAt := saturatingAdd issuedAt lifetime, issuer }
  match claims.check with
  | .ok () => .ok claims
  | .error error => .error error

/-- The JSON text of claims. -/
def json (claims : Claims) : Bytes :=
  Json.Print.object [
    ("sub", Json.Print.text claims.subject),
    ("perm", claims.permissions.json),
    ("iat", Json.Print.natural claims.issuedAt.toNat),
    ("nbf", Json.Print.natural claims.notBefore.toNat),
    ("exp", Json.Print.natural claims.expiresAt.toNat),
    ("iss", Json.Print.text claims.issuer)]

/-- Claims of which not every member has been read. -/
structure Draft where
  subject : Option String := none
  permissions : Option Permission := none
  issuedAt : Option Timestamp := none
  notBefore : Option Timestamp := none
  expiresAt : Option Timestamp := none
  issuer : Option String := none

/-- The members of claims. -/
def members : List (Json.Member Draft) := [
  ⟨"sub", .defaulted, (·.subject.isSome), fun draft => do
    return { draft with subject := some (← Json.text) }⟩,
  ⟨"perm", .required, (·.permissions.isSome), fun draft => do
    return { draft with permissions := some (← Permission.read) }⟩,
  ⟨"iat", .required, (·.issuedAt.isSome), fun draft => do
    return { draft with issuedAt := some (← Json.unsigned "u64") }⟩,
  ⟨"nbf", .required, (·.notBefore.isSome), fun draft => do
    return { draft with notBefore := some (← Json.unsigned "u64") }⟩,
  ⟨"exp", .required, (·.expiresAt.isSome), fun draft => do
    return { draft with expiresAt := some (← Json.unsigned "u64") }⟩,
  ⟨"iss", .required, (·.issuer.isSome), fun draft => do
    return { draft with issuer := some (← Json.text) }⟩]

/-- Claims as they were stated, which may have left out the subject. -/
structure Stated where
  claims : Claims
  namesSubject : Bool
  deriving DecidableEq, Repr

/-- The claims of a draft, a missing subject being empty. -/
def Draft.finish (draft : Draft) : Except Json.Fault Stated := do
  let permissions ← Json.Member.demand "perm" draft.permissions
  let issuedAt ← Json.Member.demand "iat" draft.issuedAt
  let notBefore ← Json.Member.demand "nbf" draft.notBefore
  let expiresAt ← Json.Member.demand "exp" draft.expiresAt
  let issuer ← Json.Member.demand "iss" draft.issuer
  let claims : Claims :=
    { subject := draft.subject.getD "", permissions, issuedAt, notBefore, expiresAt, issuer }
  return ⟨claims, draft.subject.isSome⟩

/-- Reads claims from JSON. -/
def read : Reader Json.Fault Stated := Json.record "struct Claims" members {} Draft.finish

/-- The claims that a JSON text states. -/
def stated (text : Bytes) : Except Json.Fault Stated := Json.decode read text

/-- The claims of a JSON text. -/
def ofJson (text : Bytes) : Except Json.Fault Claims := do
  return (← stated text).claims

end Claims
end Signet
