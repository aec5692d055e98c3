import Signet.Decimal.Parse
import Signet.Json.Printer
import Signet.Settings

/-! Where settings come from: a JSON text, then variables of the environment, then the checks. -/

namespace Signet.Settings

/-- The variable that names a file with settings. -/
def fileVariable : String := "TOKENAUTH_CONFIG"

private def textMember (name : String) (set : Settings → String → Settings) :
    Json.Member (Settings × List String) :=
  ⟨name, .defaulted, (·.2.contains name), fun draft => do
    return (set draft.1 (← Json.text), name :: draft.2)⟩

private def numberMember (name wanted : String) (set : Settings → UInt64 → Settings) :
    Json.Member (Settings × List String) :=
  ⟨name, .defaulted, (·.2.contains name), fun draft => do
    return (set draft.1 (← Json.unsigned wanted), name :: draft.2)⟩

/-- The members of a settings text; the draft remembers which of them have been read. -/
def members : List (Json.Member (Settings × List String)) := [
  textMember "issuer" fun settings value => { settings with issuer := value },
  textMember "algorithm" fun settings value => { settings with algorithm := value },
  numberMember "token_lifetime_secs" "u64" fun settings value =>
    { settings with tokenLifetime := value },
  numberMember "secret_ttl_secs" "u64" fun settings value => { settings with secretTtl := value },
  numberMember "secret_len" "usize" fun settings value => { settings with secretLength := value },
  numberMember "leeway_secs" "u64" fun settings value => { settings with leeway := value },
  numberMember "mismatch_retry_secs" "u64" fun settings value =>
    { settings with mismatchRetry := value },
  numberMember "store_timeout_millis" "u64" fun settings value =>
    { settings with storeTimeout := value },
  textMember "gateway_addr" fun settings value => { settings with gatewayAddress := value },
  textMember "store_addr" fun settings value => { settings with storeAddress := value },
  textMember "verifier_addr" fun settings value => { settings with verifierAddress := value },
  textMember "cookie_name" fun settings value => { settings with cookieName := value },
  ⟨"worker_threads", .defaulted, (·.2.contains "worker_threads"), fun draft => do
    let value ← Json.nullable (Json.unsigned "usize")
    return ({ draft.1 with workerThreads := value }, "worker_threads" :: draft.2)⟩]

/-- Reads settings from JSON; what is left out has its default. -/
def read : Reader Json.Fault Settings :=
  Json.record "struct Config" members (standard, []) fun draft => .ok draft.1

/-- The JSON text of settings, every one of them stated. -/
def json (settings : Settings) : Bytes :=
  let number := fun value : UInt64 => Json.Print.natural value.toNat
  Json.Print.object [
    ("issuer", Json.Print.text settings.issuer),
    ("algorithm", Json.Print.text settings.algorithm),
    ("token_lifetime_secs", number settings.tokenLifetime),
    ("secret_ttl_secs", number settings.secretTtl),
    ("secret_len", number settings.secretLength),
    ("leeway_secs", number settings.leeway),
    ("mismatch_retry_secs", number settings.mismatchRetry),
    ("store_timeout_millis", number settings.storeTimeout),
    ("gateway_addr", Json.Print.text settings.gatewayAddress),
    ("store_addr", Json.Print.text settings.storeAddress),
    ("verifier_addr", Json.Print.text settings.verifierAddress),
    ("cookie_name", Json.Print.text settings.cookieName),
    ("worker_threads", (settings.workerThreads.map number).getD Json.Print.null)]

/-- The settings of a JSON text. -/
def ofJson (text : Bytes) : Except SettingsError Settings :=
  match Json.decode read text with
  | .ok settings => .ok settings
  | .error fault => .error (.unparsable fault)

/-- A variable of the environment that overrides a setting. -/
structure Variable where
  name : String
  assign : String → Settings → Except SettingsError Settings

private def textVariable (name : String) (set : Settings → String → Settings) : Variable :=
  ⟨name, fun text settings => .ok (set settings text)⟩

private def numberVariable (name : String) (setting : Setting)
    (set : Settings → UInt64 → Settings) : Variable :=
  ⟨name, fun text settings =>
    match Decimal.parse? text with
    | some number => .ok (set settings number)
    | none => .error (.invalid setting (.notNumber text))⟩

/-- The variables that override settings, in the order in which they are looked up. -/
def overriding : List Variable := [
  textVariable "TOKENAUTH_ISSUER" fun settings value => { settings with issuer := value },
  textVariable "TOKENAUTH_ALGORITHM" fun settings value => { settings with algorithm := value },
  numberVariable "TOKENAUTH_TOKEN_LIFETIME_SECS" .tokenLifetime fun settings value =>
    { settings with tokenLifetime := value },
  numberVariable "TOKENAUTH_SECRET_TTL_SECS" .secretTtl fun settings value =>
    { settings with secretTtl := value },
  numberVariable "TOKENAUTH_LEEWAY_SECS" .leeway fun settings value =>
    { settings with leeway := value },
  numberVariable "TOKENAUTH_STORE_TIMEOUT_MILLIS" .storeTimeout fun settings value =>
    { settings with storeTimeout := value },
  textVariable "TOKENAUTH_GATEWAY_ADDR" fun settings value =>
    { settings with gatewayAddress := value },
  textVariable "TOKENAUTH_STORE_ADDR" fun settings value => { settings with storeAddress := value },
  textVariable "TOKENAUTH_VERIFIER_ADDR" fun settings value =>
    { settings with verifierAddress := value },
  numberVariable "TOKENAUTH_WORKER_THREADS" .workerThreads fun settings value =>
    { settings with workerThreads := some value }]

/-- Variables of the environment that are set. -/
abbrev Environment := String → Option String

/-- Applies these variables in order; the first that cannot be applied ends it, and what was set
before stays set. -/
def overrideBy (environment : Environment) :
    List Variable → Settings → Settings × Except SettingsError Unit
  | [], settings => (settings, .ok ())
  | next :: rest, settings =>
    match environment next.name with
    | none => overrideBy environment rest settings
    | some text =>
      match next.assign text settings with
      | .ok changed => overrideBy environment rest changed
      | .error error => (settings, .error error)

/-- Applies the variables of the environment. -/
def overrideFrom (environment : Environment) (settings : Settings) :
    Settings × Except SettingsError Unit :=
  overrideBy environment overriding settings

/-- Files by path: what one holds, or why it was not read. -/
abbrev Files := String → Except String Bytes

/-- What is said of a path that names no file. -/
def noFile : String := "No such file or directory (os error 2)"

/-- The text of a file. -/
def fileText (files : Files) (path : String) : Except SettingsError Bytes :=
  match files path with
  | .error reason => .error (.unreadable reason)
  | .ok bytes =>
    if (Text.ofUtf8? bytes).isSome then .ok bytes
    else .error (.unreadable "stream did not contain valid UTF-8")

/-- The settings that a service starts with. -/
def load (files : Files) (environment : Environment) : Except SettingsError Settings := do
  let base ←
    match environment fileVariable with
    | none => .ok standard
    | some path => do ofJson (← fileText files path)
  let (settings, outcome) := base.overrideFrom environment
  outcome
  settings.validate
  return settings

end Signet.Settings
