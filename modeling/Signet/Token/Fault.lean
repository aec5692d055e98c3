import Signet.Error

/-! What reading and checking a signed token can find, and the error that each finding amounts to. -/

namespace Signet

/-- What reading and checking a signed token can find. -/
inductive TokenFault where
  | shape
  | signature
  | keyFormat
  | curveKey
  | publicKey (detail : String)
  | publicKeySigning
  | algorithm
  | algorithmName
  | noAlgorithm
  | missingClaim (name : String)
  | expired
  | notYetValid
  | issuer
  | audience
  | subject
  | encoding (fault : Base64Url.Fault)
  | text (fault : Json.Fault)
  deriving DecidableEq, Repr

namespace TokenFault

/-- The error that a finding amounts to. -/
def toAuthError : TokenFault → AuthError
  | signature => .badSignature
  | expired => .expired
  | notYetValid => .notYetValid
  | issuer => .wrongIssuer
  | algorithm => .unsupportedAlgorithm "InvalidAlgorithm"
  | algorithmName => .unsupportedAlgorithm "InvalidAlgorithmName"
  | noAlgorithm => .unsupportedAlgorithm "MissingAlgorithm"
  | missingClaim name =>
    if name = "sub" then .missingSubject
    else .malformed (.other s!"Missing required claim: {name}")
  | encoding fault => .malformed (.encoding fault)
  | text fault => .malformed (.text fault)
  | shape => .malformed (.other "InvalidToken")
  | keyFormat => .malformed (.other "InvalidKeyFormat")
  | curveKey => .malformed (.other "InvalidEcdsaKey")
  | publicKey detail => .malformed (.other s!"RSA key invalid: {detail}")
  | publicKeySigning => .malformed (.other "RsaFailedSigning")
  | audience => .malformed (.other "InvalidAudience")
  | subject => .malformed (.other "InvalidSubject")

end TokenFault
end Signet
