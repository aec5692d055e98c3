import Signet.Credential
import Signet.Gateway.Request
import Signet.Json.Typed
import Signet.Pack.Typed
import Signet.Store.Request

/-! The bodies that services send each other. Each kind of body has a JSON text and a packed form,
and either can be read back. -/

namespace Signet

/-- A kind of body. -/
class Message (α : Type) where
  json : α → Bytes
  readJson : Reader Json.Fault α
  packed : α → Bytes
  unpack : Reader Pack.Fault α

/-- How a peer wants bodies written. -/
inductive Encoding where
  | packed
  | json
  deriving DecidableEq, Repr

namespace Encoding

variable {α : Type}

/-- The written form of a body. -/
def encode [Message α] (encoding : Encoding) (body : α) : Bytes :=
  match encoding with
  | packed => Message.packed body
  | json => Message.json body

/-- The body with a written form. Which fault it has otherwise is only kept apart where reading
cannot go on. -/
def decode [Message α] (encoding : Encoding) (bytes : Bytes) : Except Pack.Fault α :=
  match encoding with
  | packed => Pack.decode Message.unpack bytes
  | json =>
    match Json.decode Message.readJson bytes with
    | .ok body => .ok body
    | .error _ => .error .malformed

end Encoding

namespace Message

/-- A list of texts. -/
def textsPacked (texts : List String) : Bytes := Pack.Print.list (texts.map Pack.Print.text)

/-- A key as a list of bytes. -/
def secretPacked (secret : Secret) : Bytes :=
  Pack.Print.list (secret.bytes.map fun byte => Pack.Print.unsigned byte.toUInt64)

/-- Reads a key. -/
def unpackSecret : Reader Pack.Fault Secret := do
  return ⟨← Pack.list Pack.byte⟩

/-- Keys by name. -/
def secretsPacked (secrets : Dict Secret) : Bytes :=
  Pack.Print.object (secrets.toList.map fun entry => (entry.1, secretPacked entry.2))

/-- Reads keys by name. -/
def unpackSecrets : Reader Pack.Fault (Dict Secret) := do
  return Dict.ofList (← Pack.map unpackSecret)

instance : Message (List String) where
  json texts := Json.Print.list (texts.map Json.Print.text)
  readJson := Json.list Json.text
  packed := textsPacked
  unpack := Pack.list Pack.text

instance : Message Secret where
  json := Secret.json
  readJson := Secret.read
  packed := secretPacked
  unpack := unpackSecret

/-- Reads a member into an empty place of a draft. -/
def member {α σ : Type} (name : String) (value : Reader Pack.Fault α) (filled : σ → Bool)
    (set : σ → α → σ) : Pack.Member σ :=
  ⟨name, filled, fun draft => do return set draft (← value)⟩

instance : Message Store.Lookup where
  json := Store.Lookup.json
  readJson := Store.Lookup.read
  packed body := Pack.Print.object [("keys", textsPacked body.keys)]
  unpack := Pack.record
    [member "keys" (Pack.list Pack.text) Option.isSome fun _ keys => some keys]
    none fun draft => draft.map Store.Lookup.mk

instance : Message Store.Findings where
  json := Store.Findings.json
  readJson := Store.Findings.read
  packed body := Pack.Print.object [("secrets", secretsPacked body.secrets)]
  unpack := Pack.record
    [member "secrets" unpackSecrets Option.isSome fun _ secrets => some secrets]
    none fun draft => draft.map Store.Findings.mk

instance : Message Store.Writing where
  json := Store.Writing.json
  readJson := Store.Writing.read
  packed body := Pack.Print.object [("entries", secretsPacked body.entries),
    ("ttl_millis", Pack.Print.unsigned body.ttlMillis)]
  unpack := Pack.record [
      member "entries" unpackSecrets (·.entries.isSome) fun draft value =>
        { draft with entries := some value },
      member "ttl_millis" Pack.unsigned (·.ttlMillis.isSome) fun draft value =>
        { draft with ttlMillis := some value }]
    ({} : Store.Writing.Draft) fun draft => do
      return ⟨← draft.entries, ← draft.ttlMillis⟩

instance : Message Store.Claiming where
  json := Store.Claiming.json
  readJson := Store.Claiming.read
  packed body := Pack.Print.object [("key", Pack.Print.text body.key),
    ("secret", secretPacked body.secret), ("ttl_millis", Pack.Print.unsigned body.ttlMillis)]
  unpack := Pack.record [
      member "key" Pack.text (·.key.isSome) fun draft value => { draft with key := some value },
      member "secret" unpackSecret (·.secret.isSome) fun draft value =>
        { draft with secret := some value },
      member "ttl_millis" Pack.unsigned (·.ttlMillis.isSome) fun draft value =>
        { draft with ttlMillis := some value }]
    ({} : Store.Claiming.Draft) fun draft => do
      return ⟨← draft.key, ← draft.secret, ← draft.ttlMillis⟩

instance : Message Store.Erasure where
  json := Store.Erasure.json
  readJson := Store.Erasure.read
  packed body := Pack.Print.object [("keys", textsPacked body.keys)]
  unpack := Pack.record
    [member "keys" (Pack.list Pack.text) Option.isSome fun _ keys => some keys]
    none fun draft => draft.map Store.Erasure.mk

/-- The packed form of a credential. -/
def credentialPacked (credential : Credential) : Bytes :=
  Pack.Print.object [("identifier", Pack.Print.text credential.identifier),
    ("secret", Pack.Print.text credential.proof)]

/-- Reads a credential. -/
def unpackCredential : Reader Pack.Fault Credential :=
  Pack.record [
      member "identifier" Pack.text (·.1.isSome) fun draft value => (some value, draft.2),
      member "secret" Pack.text (·.2.isSome) fun draft value => (draft.1, some value)]
    ((none, none) : Option String × Option String) fun draft => do
      return ⟨← draft.1, ← draft.2⟩

instance : Message Credential where
  json := Credential.json
  readJson := Credential.read
  packed := credentialPacked
  unpack := unpackCredential

instance : Message Verification where
  json := Verification.json
  readJson := Verification.read
  packed body := Pack.Print.object [("subject", Pack.Print.text body.subject),
    ("ok", Pack.Print.boolean body.ok), ("privileged", Pack.Print.boolean body.privileged)]
  unpack := Pack.record [
      member "subject" Pack.text (·.subject.isSome) fun draft value =>
        { draft with subject := some value },
      member "ok" Pack.boolean (·.ok.isSome) fun draft value => { draft with ok := some value },
      member "privileged" Pack.boolean (·.privileged.isSome) fun draft value =>
        { draft with privileged := some value }]
    ({} : Verification.Draft) fun draft => do
      return ⟨← draft.subject, ← draft.ok, draft.privileged.getD false⟩

instance : Message SignIn where
  json := SignIn.json
  readJson := SignIn.read
  packed body := Pack.Print.object [("credential", credentialPacked body.credential),
    ("permissions", textsPacked body.permissions)]
  unpack := Pack.record [
      member "credential" unpackCredential (·.1.isSome) fun draft value => (some value, draft.2),
      member "permissions" (Pack.list Pack.text) (·.2.isSome) fun draft value =>
        (draft.1, some value)]
    ((none, none) : Option Credential × Option (List String)) fun draft => do
      return ⟨← draft.1, draft.2.getD []⟩

instance : Message Authorization where
  json := Authorization.json
  readJson := Authorization.read
  packed body := Pack.Print.object [("permissions", textsPacked body.permissions)]
  unpack := Pack.record
    [member "permissions" (Pack.list Pack.text) Option.isSome fun _ names => some names]
    none fun draft => some ⟨draft.getD []⟩

end Message
end Signet
