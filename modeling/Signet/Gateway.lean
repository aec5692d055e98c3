import Signet.Authority
import Signet.Http
import Signet.Permission.Table

/-! The gateway lets clients sign in and out and checks what they are permitted. Clients see a
decision, which never tells them why they are denied. -/

namespace Signet

open Http (Status)

/-- What a client is told. -/
structure Decision where
  allowed : Bool
  status : Status
  message : Option String
  /-- A new token, where the client has signed in. -/
  token : Option String
  deriving DecidableEq, Repr

namespace Decision

def allow (message : Option String) : Decision := ⟨true, .ok, message, none⟩

def deny (status : Status) (message : String) : Decision := ⟨false, status, some message, none⟩

/-- The decision for whoever cannot be trusted. -/
def unauthorized : Decision := deny .unauthorized "unauthorized"

/-- What a client is told of an error. Errors of tokens all look the same. -/
def ofError (error : AuthError) : Decision :=
  match error, error.category with
  | .unrecognizedPermission _, _ => deny .badRequest "unrecognized permission"
  | _, .input | _, .temporal | _, .trust => unauthorized
  | _, .infrastructure => deny .unavailable "try again"
  | _, .issuance => deny .internalError "sign in failed"

/-- A member that is there or not. -/
def jsonMember (name : String) (value : Option String) : List (String × Bytes) :=
  (value.map fun text => (name, Json.Print.text text)).toList

/-- The JSON text of a decision. -/
def json (decision : Decision) : Bytes :=
  Json.Print.object ([("allowed", Json.Print.boolean decision.allowed)] ++
    jsonMember "message" decision.message ++ jsonMember "token" decision.token)

end Decision

/-- What signs clients in and out and checks their tokens. -/
structure Gateway where
  authority : Authority
  table : Permission.Table

namespace Gateway

/-- Bytes that count as blanks around the parts of a field. -/
def isBlank (byte : UInt8) : Bool := byte = 32 || byte = 9

/-- The bytes without blanks at either end. -/
def trimmed (bytes : Bytes) : Bytes := ((bytes.dropWhile isBlank).reverse.dropWhile isBlank).reverse

/-- What stands before and after the first such byte. -/
def splitAt (separator : UInt8) (bytes : Bytes) : Option (Bytes × Bytes) :=
  match bytes.dropWhile (· ≠ separator) with
  | [] => none
  | _ :: rest => some (bytes.takeWhile (· ≠ separator), rest)

/-- A capital letter made small. -/
def lowered (byte : UInt8) : UInt8 :=
  if ascii 'A' ≤ byte ∧ byte ≤ ascii 'Z' then byte + 32 else byte

/-- The token in the value of an authorization field. -/
def bearer (value : Bytes) : Option Bytes :=
  match splitAt (ascii ' ') (trimmed value) with
  | some (scheme, rest) =>
    if scheme.map lowered = Text.utf8 "bearer" ∧ trimmed rest ≠ [] then some (trimmed rest) else none
  | none => none

/-- The named values in the value of a cookie field. -/
def cookies (value : Bytes) : List (Bytes × Bytes) :=
  (Token.segments (ascii ';') value).filterMap fun pair => splitAt (ascii '=') (trimmed pair)

/-- The token of a session cookie. -/
def sessionToken (name : String) (headers : List Http.Header) : Option Bytes :=
  let readable := (headers.filter (·.hasName "cookie")).filterMap (·.readable?)
  ((readable.flatMap cookies).find? fun cookie => cookie.1 = Text.utf8 name && !cookie.2.isEmpty).map
    Prod.snd

/-- The token that a client presents: that of the first authorization field, or else that of the
session cookie. -/
def bearerToken (gateway : Gateway) (headers : List Http.Header) : Option String :=
  let presented := ((headers.find? (·.hasName "authorization")).bind (·.readable?)).bind bearer
  (presented.or (sessionToken gateway.authority.settings.cookieName headers)).map Text.ofAscii

/-- The cookie that holds a token. -/
def sessionCookie (gateway : Gateway) (token : String) : String :=
  let settings := gateway.authority.settings
  s!"{settings.cookieName}={token}; Path=/; Max-Age={settings.tokenLifetime}; HttpOnly; Secure; SameSite=Strict"

/-- The cookie that takes the place of the session cookie and is dropped at once. -/
def clearedCookie (gateway : Gateway) : String :=
  s!"{gateway.authority.settings.cookieName}=; Path=/; Max-Age=0; HttpOnly; Secure; SameSite=Strict"

/-- Issues a token to a verified subject; only the verifier can open the privileged side. -/
def grant (gateway : Gateway) (verification : Verification) (names : List String) :
    Operation Decision := do
  match gateway.table.resolve names verification.privileged with
  | .error error => return Decision.ofError error
  | .ok permissions =>
    match ← (gateway.authority.issue verification.subject permissions).run with
    | .ok token => return { Decision.allow none with token := some token }
    | .error error => return Decision.ofError error

/-- Checks a credential and issues a token with the permissions of these names. -/
def signIn (gateway : Gateway) (credential : Credential) (names : List String) :
    Operation Decision := do
  match ← Operation.query (.verification credential) with
  | .error error =>
    Operation.report .warn "credential verification failed" [("error", error.message)]
    return Decision.ofError error
  | .ok verification =>
    if verification.ok ∧ verification.subject ≠ "" then gateway.grant verification names
    else
      Operation.report .info "rejected credential" [("identifier", credential.identifier)]
      return Decision.unauthorized

/-- Revokes every token of the client. -/
def signOut (gateway : Gateway) (headers : List Http.Header) : Operation Decision := do
  match gateway.bearerToken headers with
  | none => return Decision.unauthorized
  | some token =>
    match ← (gateway.authority.revoke token).run with
    | .ok () => return Decision.allow (some "signed out")
    | .error error => return Decision.ofError error

/-- Checks that the client has these permissions. -/
def authorize (gateway : Gateway) (headers : List Http.Header) (required : Permission) :
    Operation Decision := do
  match gateway.bearerToken headers with
  | none => return Decision.unauthorized
  | some token =>
    match ← (gateway.authority.verify token required).run with
    | .ok true => return Decision.allow none
    | .ok false =>
      return Decision.deny .forbidden s!"missing permission {gateway.table.describe required}"
    | .error error => return Decision.ofError error

/-- Checks that the client has the permissions of these names. The names are those of the server, so
privileged ones count. -/
def authorizeNames (gateway : Gateway) (headers : List Http.Header) (names : List String) :
    Operation Decision := do
  match gateway.table.resolve names true with
  | .ok required => gateway.authorize headers required
  | .error error => return Decision.ofError error

end Gateway
end Signet
