import Signet.Json.Fault
import Signet.Text.Base64Url

/-! Every failure that the authority reports, by cause. Callers answer by the broad class of an
error; only troubles with a backing service are worth a second try. -/

namespace Signet

/-- Why a call to the secret store failed. -/
inductive StoreError where
  /-- The store was not reached, or failed itself. -/
  | unavailable (detail : String)
  /-- The store refused the call, or its answer was not understood. -/
  | protocol (detail : String)
  deriving DecidableEq, Repr

/-- The wording of a store failure. -/
def StoreError.message : StoreError → String
  | .unavailable detail => s!"secret store unavailable: {detail}"
  | .protocol detail => s!"secret store protocol error: {detail}"

/-- What makes a token no token at all. -/
inductive Malformation where
  | segments
  | headerEncoding (fault : Base64Url.Fault)
  | headerText (fault : Json.Fault)
  | encoding (fault : Base64Url.Fault)
  | text (fault : Json.Fault)
  | claimsOutOfOrder
  /-- Any other reason, in words. -/
  | other (reason : String)
  deriving DecidableEq, Repr

/-- The wording of each reason. -/
def Malformation.message : Malformation → String
  | .segments => "expected three non-empty segments"
  | .headerEncoding fault => s!"header: {fault.message}"
  | .headerText fault => s!"header: {fault.message}"
  | .encoding fault => s!"Base64 error: {fault.message}"
  | .text fault => s!"JSON error: {fault.message}"
  | .claimsOutOfOrder => "temporal claims out of order"
  | .other reason => reason

/-- Broad category of an error. -/
inductive ErrorClass where
  /-- The token or the request is not acceptable as it stands. -/
  | input
  /-- The token is outside its validity window. -/
  | temporal
  /-- The token cannot be trusted. -/
  | trust
  /-- A backing service could not be consulted, so nothing is decided. -/
  | infrastructure
  /-- A token could not be made. -/
  | issuance
  deriving DecidableEq, Repr

/-- Every failure that the authority reports. -/
inductive AuthError where
  | malformed (reason : Malformation)
  | unsupportedAlgorithm (name : String)
  | missingSubject
  | expired
  | notYetValid
  | badSignature
  | wrongIssuer
  | unknownSubject
  | unrecognizedPermission (name : String)
  | issuanceFailed
  | store (error : StoreError)
  | verifierUnavailable (detail : String)
  | timeout
  | cancelled
  deriving DecidableEq, Repr

namespace AuthError

/-- The wording of each error. -/
def message : AuthError → String
  | malformed reason => s!"malformed token: {reason.message}"
  | unsupportedAlgorithm name => s!"unsupported signing algorithm: {name}"
  | missingSubject => "token has no subject"
  | expired => "token has expired"
  | notYetValid => "token is not yet valid"
  | badSignature => "token signature is invalid"
  | wrongIssuer => "token issuer is not recognized"
  | unknownSubject => "no live secret for subject"
  | unrecognizedPermission name => s!"unrecognized permission: {name}"
  | issuanceFailed => "issuance failed"
  | store error => error.message
  | verifierUnavailable detail => s!"credential verifier unavailable: {detail}"
  | timeout => "secret store timed out"
  | cancelled => "operation cancelled"

/-- The category of each error. -/
def category : AuthError → ErrorClass
  | malformed _ | unsupportedAlgorithm _ | missingSubject | unrecognizedPermission _ => .input
  | expired | notYetValid => .temporal
  | badSignature | wrongIssuer | unknownSubject => .trust
  | store _ | verifierUnavailable _ | timeout | cancelled => .infrastructure
  | issuanceFailed => .issuance

/-- Whether the same call may succeed when it is made again. -/
def isRetryable (error : AuthError) : Bool := error.category = .infrastructure

end AuthError
end Signet
