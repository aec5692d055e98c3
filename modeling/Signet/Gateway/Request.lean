import Signet.Credential

/-! What clients send to the gateway: a credential to sign in with, and the permissions that an
operation requires. -/

namespace Signet

/-- A request to sign in. -/
structure SignIn where
  credential : Credential
  /-- Names of the permissions asked for. -/
  permissions : List String
  deriving DecidableEq, Repr

namespace SignIn

/-- The JSON text of a request to sign in. -/
def json (request : SignIn) : Bytes :=
  Json.Print.object [("credential", request.credential.json),
    ("permissions", Json.Print.list (request.permissions.map Json.Print.text))]

/-- The members of a request to sign in. -/
def members : List (Json.Member (Option Credential × Option (List String))) := [
  ⟨"credential", .required, (·.1.isSome), fun draft => do
    return (some (← Credential.read), draft.2)⟩,
  ⟨"permissions", .defaulted, (·.2.isSome), fun draft => do
    return (draft.1, some (← Json.list Json.text))⟩]

/-- Reads a request to sign in from JSON. -/
def read : Reader Json.Fault SignIn :=
  Json.record "a sign-in" members (none, none) fun draft => do
    let credential ← Json.Member.demand "credential" draft.1
    return ⟨credential, draft.2.getD []⟩

end SignIn

/-- A request to check the permissions of a client. -/
structure Authorization where
  /-- Names of the permissions required. -/
  permissions : List String
  deriving DecidableEq, Repr

namespace Authorization

/-- The JSON text of a request to check permissions. -/
def json (request : Authorization) : Bytes :=
  Json.Print.object [("permissions", Json.Print.list (request.permissions.map Json.Print.text))]

/-- Reads a request to check permissions from JSON. -/
def read : Reader Json.Fault Authorization :=
  Json.record "an authorization"
    [⟨"permissions", .defaulted, Option.isSome, fun _ => do
      return some (← Json.list Json.text)⟩]
    none fun draft => .ok ⟨draft.getD []⟩

/-- The request in a body; an empty one requires nothing. -/
def ofBody (body : Bytes) : Except Json.Fault Authorization :=
  if body = [] then .ok ⟨[]⟩ else Json.decode read body

end Authorization

end Signet
