import Signet.Operation
import Signet.Token

/-! The authority issues, verifies and revokes tokens. Every subject signs with a secret of its own,
which is kept in the store and asked for at every call; nothing is remembered between calls. -/

namespace Signet

/-- What issues, verifies and revokes tokens. -/
structure Authority where
  settings : Settings
  codec : Token.Codec
  /-- The time of new claims, if it is not that of the clock. -/
  stamp : Option Timestamp := none
  deriving DecidableEq, Repr

namespace Authority

open Operation (report)

/-- The authority that valid settings ask for. -/
def ofSettings (settings : Settings) : Except SettingsError Authority := do
  settings.validate
  let codec ← Token.Codec.ofSettings settings
  return { settings, codec }

/-- Makes a store call within the time that a call may take. -/
def call (authority : Authority) (call : StoreCall) : Attempt call.Answer :=
  Attempt.store call authority.settings.storeTimeoutSpan

/-- Reports that a token was rejected, and for what. -/
def reject {α : Type} (subject : String) (error : AuthError) : Attempt α := do
  let fields := [("subject", subject), ("error", error.message)]
  if error.category = .trust then
    report .warn "rejected untrusted token, possible tampering" fields
  else report .debug "rejected token" fields
  throw error

/-- Reports a failure as the rejection of a token. -/
def rejecting {α : Type} (subject : String) (attempt : Attempt α) : Attempt α :=
  tryCatch attempt (reject subject)

/-- The secret under which tokens of the subject count now; an empty one counts as none. -/
def currentSecret (authority : Authority) (subject : String) : Attempt (Option Secret) := do
  let found ← authority.call (.get (Secret.key subject))
  return found.filter (!·.isEmpty)

/-- A store failure while a token is issued is reported and otherwise kept from the caller. A call
that took too long or was cancelled may be made again, so those errors stay. -/
def issuanceFailure {α : Type} (error : AuthError) : Attempt α := do
  match error with
  | .store failure =>
    report .warn "issuance failed" [("error", failure.message)]
    throw .issuanceFailed
  | other => throw other

/-- The secret to sign with: the visible one of the subject, whose time is extended, or else a new
one. Of calls that race, the first decides. -/
def claimSecret (authority : Authority) (subject : String) : Attempt Secret := do
  let fresh ← Operation.query (.fresh authority.settings.secretLength.toNat)
  match fresh with
  | .error reason =>
    report .warn "secret generation failed" [("error", reason)]
    throw .issuanceFailed
  | .ok fresh =>
    let live ← authority.call (.claim (Secret.key subject) fresh authority.settings.secretTtlSpan)
    if live = fresh then report .debug "created secret" [("subject", subject)]
    else report .debug "renewed secret" [("subject", subject)]
    return live

/-- The time that new claims state. -/
def stampTime (authority : Authority) : Operation Timestamp :=
  match authority.stamp with
  | some moment => pure moment
  | none => Operation.time

/-- Issues a token with these permissions. -/
def issue (authority : Authority) (subject : String) (permissions : Permission) :
    Attempt String := do
  if subject = "" then throw .missingSubject
  let secret ← tryCatch (authority.claimSecret subject) issuanceFailure
  let claims ← Attempt.ofResult (Claims.issue subject permissions (← authority.stampTime)
    authority.settings.tokenLifetime authority.settings.issuer)
  let token ← Attempt.ofResult (authority.codec.encode claims secret)
  report .info "issued token" [("subject", subject), ("permissions", permissions.text),
    ("exp", toString claims.expiresAt)]
  return token

/-- Whether a token may be so young that a secret read before it was made is to blame if its
signature does not fit. -/
def recentlyIssued (authority : Authority) (now : Timestamp) (claims : Claims) : Bool :=
  claims.issuedAt ≤ saturatingAdd now authority.settings.leeway &&
    saturatingSub now claims.issuedAt ≤ authority.settings.mismatchRetry

/-- The claims of a token that a secret has signed and that counts now. -/
def decode (authority : Authority) (token : String) (secret : Secret) : Attempt Claims := do
  let now ← Operation.time
  Attempt.ofResult (authority.codec.decode now token secret)

/-- Reads the secret once more and, if it has changed, checks the token again. -/
def reverify (authority : Authority) (token subject : String) (tried : Secret) :
    Attempt Claims := do
  match ← authority.currentSecret subject with
  | some fresh =>
    if fresh ≠ tried then
      report .debug "secret changed, verifying again" [("subject", subject)]
      authority.decode token fresh
    else throw .badSignature
  | none => throw .badSignature

/-- The claims of a token, checked with the secret of the subject that it names. -/
def accept (authority : Authority) (token : String) (hint : Claims) (secret : Secret) :
    Attempt Claims := do
  let now ← Operation.time
  match authority.codec.decode now token secret with
  | .ok claims => return claims
  | .error .badSignature =>
    if authority.recentlyIssued now hint then authority.reverify token hint.subject secret
    else throw .badSignature
  | .error error => throw error

/-- Whether a token carries every permission required. That the token is not to be trusted is an
error and never the answer `false`. -/
def verify (authority : Authority) (token : String) (required : Permission) : Attempt Bool := do
  let hint ← Attempt.ofResult (Token.peek token)
  match ← authority.currentSecret hint.subject with
  | none => reject hint.subject .unknownSubject
  | some secret =>
    let claims ← rejecting hint.subject (authority.accept token hint secret)
    let allowed := claims.permissions.hasAll required
    report .debug "verified token" [("subject", hint.subject), ("required", required.text),
      ("allowed", toString allowed)]
    return allowed

/-- Drops the secret of a subject, so that none of its tokens counts any longer. -/
def revokeSubject (authority : Authority) (subject : String) : Attempt Unit := do
  authority.call (.delete (Secret.key subject))
  report .info "revoked all tokens" [("subject", subject)]

/-- Revokes every token of the subject of a token, which has to be signed but may have expired. A
subject without a secret has nothing to revoke. -/
def revoke (authority : Authority) (token : String) : Attempt Unit := do
  let hint ← Attempt.ofResult (Token.peek token)
  match ← authority.currentSecret hint.subject with
  | none => report .debug "nothing to revoke" [("subject", hint.subject)]
  | some secret =>
    let _ ← rejecting hint.subject
      (Attempt.ofResult (authority.codec.decodeIgnoringTime token secret))
    authority.revokeSubject hint.subject

end Authority
end Signet
