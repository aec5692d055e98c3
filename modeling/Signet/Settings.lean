import Signet.Algorithm
import Signet.Clock
import Signet.Text.Quoted
import Signet.Json.Typed

/-! Settings shared by the authority, the gateway and the services: defaults, and the checks that
they have to pass before an authority works with them. -/

namespace Signet

/-- A setting, as messages name it. -/
inductive Setting where
  | issuer
  | algorithm
  | tokenLifetime
  | secretTtl
  | secretLength
  | leeway
  | storeTimeout
  | workerThreads
  deriving DecidableEq, Repr

/-- The name of a setting in files and messages. -/
def Setting.name : Setting → String
  | issuer => "issuer"
  | algorithm => "algorithm"
  | tokenLifetime => "token_lifetime_secs"
  | secretTtl => "secret_ttl_secs"
  | secretLength => "secret_len"
  | leeway => "leeway_secs"
  | storeTimeout => "store_timeout_millis"
  | workerThreads => "worker_threads"

/-- What is wrong with the value of a setting. -/
inductive Objection where
  | empty
  | notKeyed (name : String)
  | notPositive
  | tooLong (greatest : Nat)
  | coversNoToken
  | tooShort (least : Nat)
  | reachesLifetime
  | notNumber (text : String)
  deriving DecidableEq, Repr

/-- The wording of each objection. -/
def Objection.message : Objection → String
  | empty => "must not be empty"
  | notKeyed name => s!"{name} is not an HMAC algorithm"
  | notPositive => "must be positive"
  | tooLong greatest => s!"must not exceed {greatest} seconds"
  | coversNoToken => "must cover the token lifetime plus leeway"
  | tooShort least => s!"must be at least {least} bytes"
  | reachesLifetime => "must be shorter than the token lifetime"
  | notNumber text => s!"cannot parse {Text.quoted text}"

/-- Why settings cannot be used. -/
inductive SettingsError where
  | unreadable (reason : String)
  | unparsable (fault : Json.Fault)
  | invalid (setting : Setting) (objection : Objection)
  deriving DecidableEq, Repr

/-- The wording of each reason. -/
def SettingsError.message : SettingsError → String
  | unreadable reason => s!"could not read config file: {reason}"
  | unparsable fault => s!"could not parse config: {fault.message}"
  | invalid setting objection => s!"invalid value for `{setting.name}`: {objection.message}"

/-- Settings; times are in seconds, the store timeout in milliseconds. -/
structure Settings where
  issuer : String
  algorithm : String
  tokenLifetime : UInt64
  secretTtl : UInt64
  secretLength : UInt64
  leeway : UInt64
  mismatchRetry : UInt64
  storeTimeout : UInt64
  gatewayAddress : String
  storeAddress : String
  verifierAddress : String
  cookieName : String
  workerThreads : Option UInt64
  deriving DecidableEq, Repr

namespace Settings

/-- The longest time, in seconds, that a secret may stay in the store. -/
def greatestTtl : Nat := 7 * 24 * 60 * 60

/-- The fewest bytes of a key to sign with. -/
def leastSecretLength : Nat := 32

/-- The settings that hold where nothing else is said. -/
def standard : Settings where
  issuer := "tokenauth"
  algorithm := "HS256"
  tokenLifetime := 15 * 60
  secretTtl := 20 * 60
  secretLength := 32
  leeway := 5
  mismatchRetry := 10
  storeTimeout := 2000
  gatewayAddress := "127.0.0.1:8080"
  storeAddress := "127.0.0.1:8081"
  verifierAddress := "127.0.0.1:8082"
  cookieName := "token"
  workerThreads := none

/-- The algorithm to sign with. -/
def signingAlgorithm (settings : Settings) : Except SettingsError Algorithm :=
  match Algorithm.ofName? settings.algorithm with
  | some algorithm => .ok algorithm
  | none => .error (.invalid .algorithm (.notKeyed settings.algorithm))

/-- How long a token counts. -/
def tokenLifetimeSpan (settings : Settings) : Span := Span.ofSeconds settings.tokenLifetime.toNat

/-- How long a secret stays in the store after the last token was signed with it. -/
def secretTtlSpan (settings : Settings) : Span := Span.ofSeconds settings.secretTtl.toNat

/-- How long a call to the store may take. -/
def storeTimeoutSpan (settings : Settings) : Span := Span.ofMillis settings.storeTimeout.toNat

/-- The first check that the settings do not pass, if there is one. A secret has to outlive every
token that it signed. -/
def validate (settings : Settings) : Except SettingsError Unit := do
  if settings.issuer = "" then throw (.invalid .issuer .empty)
  let _ ← settings.signingAlgorithm
  if settings.tokenLifetime = 0 then throw (.invalid .tokenLifetime .notPositive)
  if greatestTtl < settings.tokenLifetime.toNat then
    throw (.invalid .tokenLifetime (.tooLong greatestTtl))
  if greatestTtl < settings.secretTtl.toNat then
    throw (.invalid .secretTtl (.tooLong greatestTtl))
  if settings.secretTtl < saturatingAdd settings.tokenLifetime settings.leeway then
    throw (.invalid .secretTtl .coversNoToken)
  if settings.secretLength.toNat < leastSecretLength then
    throw (.invalid .secretLength (.tooShort leastSecretLength))
  if settings.tokenLifetime ≤ settings.leeway then throw (.invalid .leeway .reachesLifetime)
  if settings.workerThreads = some 0 then throw (.invalid .workerThreads .notPositive)

end Settings
end Signet
