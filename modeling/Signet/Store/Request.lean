import Signet.Dict
import Signet.Secret

/-! What callers send to a served store, and what it answers. Times are in milliseconds. -/

namespace Signet.Store

/-- A request for the visible secrets under some keys. -/
structure Lookup where
  keys : List String
  deriving DecidableEq, Repr

/-- The visible secrets that were found. -/
structure Findings where
  secrets : Dict Secret
  deriving DecidableEq, Repr

/-- A request to write secrets. -/
structure Writing where
  entries : Dict Secret
  ttlMillis : UInt64
  deriving DecidableEq, Repr

/-- A request to write a secret unless a visible one is there; it is answered with the visible one. -/
structure Claiming where
  key : String
  secret : Secret
  ttlMillis : UInt64
  deriving DecidableEq, Repr

/-- A request to drop keys. -/
structure Erasure where
  keys : List String
  deriving DecidableEq, Repr

/-- The JSON text of some keys. -/
def keysJson (keys : List String) : Bytes :=
  Json.Print.object [("keys", Json.Print.list (keys.map Json.Print.text))]

/-- The JSON text of secrets by key. -/
def secretsJson (secrets : Dict Secret) : Bytes :=
  Json.Print.object (secrets.toList.map fun entry => (entry.1, entry.2.json))

/-- Reads secrets by key; a later one of a key wins. -/
def readSecrets : Reader Json.Fault (Dict Secret) := do
  return Dict.ofList (← Json.map Secret.read)

/-- Reads a record with a single member. -/
def readSingle {α β : Type} (kind name : String) (value : Reader Json.Fault α) (build : α → β) :
    Reader Json.Fault β :=
  Json.record kind
    [⟨name, .required, Option.isSome, fun _ => do return some (← value)⟩]
    none fun draft => (Json.Member.demand name draft).map build

namespace Lookup

def json (body : Lookup) : Bytes := keysJson body.keys

def read : Reader Json.Fault Lookup :=
  readSingle "a look-up" "keys" (Json.list Json.text) Lookup.mk

end Lookup

namespace Findings

def json (body : Findings) : Bytes :=
  Json.Print.object [("secrets", secretsJson body.secrets)]

def read : Reader Json.Fault Findings :=
  readSingle "what a look-up found" "secrets" readSecrets Findings.mk

end Findings

namespace Writing

def json (body : Writing) : Bytes :=
  Json.Print.object [("entries", secretsJson body.entries),
    ("ttl_millis", Json.Print.natural body.ttlMillis.toNat)]

/-- A request of which not every member has been read. -/
structure Draft where
  entries : Option (Dict Secret) := none
  ttlMillis : Option UInt64 := none

def members : List (Json.Member Draft) := [
  ⟨"entries", .required, (·.entries.isSome), fun draft => do
    return { draft with entries := some (← readSecrets) }⟩,
  ⟨"ttl_millis", .required, (·.ttlMillis.isSome), fun draft => do
    return { draft with ttlMillis := some (← Json.unsigned "u64") }⟩]

def read : Reader Json.Fault Writing :=
  Json.record "secrets to write" members {} fun draft => do
    let entries ← Json.Member.demand "entries" draft.entries
    let ttlMillis ← Json.Member.demand "ttl_millis" draft.ttlMillis
    return ⟨entries, ttlMillis⟩

end Writing

namespace Claiming

def json (body : Claiming) : Bytes :=
  Json.Print.object [("key", Json.Print.text body.key), ("secret", body.secret.json),
    ("ttl_millis", Json.Print.natural body.ttlMillis.toNat)]

/-- A request of which not every member has been read. -/
structure Draft where
  key : Option String := none
  secret : Option Secret := none
  ttlMillis : Option UInt64 := none

def members : List (Json.Member Draft) := [
  ⟨"key", .required, (·.key.isSome), fun draft => do
    return { draft with key := some (← Json.text) }⟩,
  ⟨"secret", .required, (·.secret.isSome), fun draft => do
    return { draft with secret := some (← Secret.read) }⟩,
  ⟨"ttl_millis", .required, (·.ttlMillis.isSome), fun draft => do
    return { draft with ttlMillis := some (← Json.unsigned "u64") }⟩]

def read : Reader Json.Fault Claiming :=
  Json.record "a secret to claim" members {} fun draft => do
    let key ← Json.Member.demand "key" draft.key
    let secret ← Json.Member.demand "secret" draft.secret
    let ttlMillis ← Json.Member.demand "ttl_millis" draft.ttlMillis
    return ⟨key, secret, ttlMillis⟩

end Claiming

namespace Erasure

def json (body : Erasure) : Bytes := keysJson body.keys

def read : Reader Json.Fault Erasure :=
  readSingle "keys to erase" "keys" (Json.list Json.text) Erasure.mk

end Erasure
end Signet.Store
