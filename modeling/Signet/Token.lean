import Signet.Claims
import Signet.Json.Lenient
import Signet.Secret
import Signet.Settings
import Signet.Token.Fault
import Signet.Token.Header

/-! Signed tokens: three segments with points between them, which hold a header that names the
algorithm, the claims, and the tag of the first two under a secret. -/

namespace Signet.Token

/-- The segments of a byte string between the bytes that separate them. -/
def segments (separator : UInt8) : Bytes → List Bytes
  | [] => [[]]
  | byte :: rest =>
    if byte = separator then [] :: segments separator rest
    else
      match segments separator rest with
      | first :: others => (byte :: first) :: others
      | [] => [[byte]]

/-- What stands between the segments. -/
def point : UInt8 := ascii '.'

/-- The three segments of a token. -/
structure Parts where
  header : Bytes
  payload : Bytes
  signature : Bytes
  deriving DecidableEq, Repr

namespace Parts

/-- The segments of a token, none of them empty. -/
def ofText (token : String) : Except AuthError Parts :=
  match segments point (Text.utf8 token) with
  | [header, payload, signature] =>
    if header = [] ∨ payload = [] ∨ signature = [] then .error (.malformed .segments)
    else .ok ⟨header, payload, signature⟩
  | _ => .error (.malformed .segments)

/-- What the signature signs. -/
def message (parts : Parts) : Bytes := parts.header ++ point :: parts.payload

/-- The only signature that counts under a secret. -/
def signatureUnder (parts : Parts) (algorithm : Algorithm) (secret : Secret) : Bytes :=
  Base64Url.encode (algorithm.mac secret.bytes parts.message)

/-- The algorithm that the header names. -/
def algorithm (parts : Parts) : Except AuthError Algorithm :=
  match Base64Url.decode parts.header with
  | .error fault => .error (.malformed (.headerEncoding fault))
  | .ok text =>
    match Json.decode readAlgorithmName text with
    | .error fault => .error (.malformed (.headerText fault))
    | .ok name =>
      match Algorithm.ofName? name with
      | some algorithm => .ok algorithm
      | none => .error (.unsupportedAlgorithm name)

/-- The text that a segment holds. -/
def decoded (segment : Bytes) : Except TokenFault Bytes :=
  match Base64Url.decode segment with
  | .ok text => .ok text
  | .error fault => .error (.encoding fault)

/-- The value that a text holds. -/
def valued {α : Type} (result : Except Json.Fault α) : Except TokenFault α :=
  match result with
  | .ok value => .ok value
  | .error fault => .error (.text fault)

/-- The whole header is acceptable. -/
def checkHeader (parts : Parts) : Except TokenFault Unit := do
  let text ← decoded parts.header
  valued (Json.decode readHeader text)

/-- Reads the registered members of a payload once more; they may hold anything but stand only once,
and so may an audience. -/
def readRegistered : Reader Json.Fault Unit :=
  Json.looseRecord "struct ClaimsForValidation" ["exp", "nbf", "sub", "iss", "aud"]

/-- The claims that the payload states. -/
def stated (parts : Parts) : Except TokenFault Claims.Stated := do
  let text ← decoded parts.payload
  let stated ← valued (Claims.stated text)
  valued (Json.decode readRegistered text)
  return stated

end Parts

/-- The text of a token from its segments. -/
def ofParts (parts : Parts) : String :=
  Text.ofAscii (parts.message ++ point :: parts.signature)

/-- The algorithm of a token that is well formed and signed with a supported one. -/
def inspect (token : String) : Except AuthError Algorithm := do
  (← Parts.ofText token).algorithm

/-- A finding as the error that it amounts to. -/
def orAuthError {α : Type} (result : Except TokenFault α) : Except AuthError α :=
  match result with
  | .ok value => .ok value
  | .error fault => .error fault.toAuthError

/-- The claims that a token states, neither signature nor times being checked. They are only good for
choosing the secret to check the token with. -/
def peek (token : String) : Except AuthError Claims := do
  let parts ← Parts.ofText token
  let _ ← parts.algorithm
  orAuthError parts.checkHeader
  let stated ← orAuthError parts.stated
  if stated.claims.subject = "" then throw .missingSubject
  return stated.claims

/-- The claims that a secret has signed. The signature is compared before the payload is looked at. -/
def signed (token : String) (secret : Secret) : Except AuthError Claims.Stated := do
  let parts ← Parts.ofText token
  let algorithm ← parts.algorithm
  orAuthError parts.checkHeader
  if parts.signature ≠ parts.signatureUnder algorithm secret then throw .badSignature
  orAuthError parts.stated

/-- What signs and checks tokens. -/
structure Codec where
  /-- The issuer that every token has to name. -/
  issuer : String
  /-- Seconds by which clocks may differ. -/
  leeway : UInt64
  /-- The algorithm of new tokens. -/
  algorithm : Algorithm
  deriving DecidableEq, Repr

namespace Codec

/-- The codec that settings ask for. -/
def ofSettings (settings : Settings) : Except SettingsError Codec := do
  let algorithm ← settings.signingAlgorithm
  return ⟨settings.issuer, settings.leeway, algorithm⟩

/-- The token that states these claims, signed with a secret. -/
def encode (codec : Codec) (claims : Claims) (secret : Secret) : Except AuthError String := do
  claims.check
  let header := Base64Url.encode (headerJson codec.algorithm)
  let payload := Base64Url.encode claims.json
  let unsigned : Parts := ⟨header, payload, []⟩
  return ofParts { unsigned with signature := unsigned.signatureUnder codec.algorithm secret }

/-- Both ends of the validity window, with the leeway. Times wrap around at 64 bits. -/
def checkWindow (codec : Codec) (now : Timestamp) (claims : Claims) : Except AuthError Unit :=
  if claims.expiresAt < now - codec.leeway then .error .expired
  else if now + codec.leeway < claims.notBefore then .error .notYetValid
  else .ok ()

/-- What is checked of signed claims, apart from the window. -/
def checkSigned (codec : Codec) (window : Claims → Except AuthError Unit) (stated : Claims.Stated) :
    Except AuthError Claims := do
  if ¬ stated.namesSubject then throw .missingSubject
  window stated.claims
  if stated.claims.issuer ≠ codec.issuer then throw .wrongIssuer
  stated.claims.check
  return stated.claims

/-- The claims of a token that a secret has signed and that counts now. -/
def decode (codec : Codec) (now : Timestamp) (token : String) (secret : Secret) :
    Except AuthError Claims := do
  codec.checkSigned (codec.checkWindow now) (← signed token secret)

/-- The claims of a token that a secret has signed, whenever it counts. -/
def decodeIgnoringTime (codec : Codec) (token : String) (secret : Secret) :
    Except AuthError Claims := do
  codec.checkSigned (fun _ => .ok ()) (← signed token secret)

end Codec
end Signet.Token
