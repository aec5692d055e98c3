import Signet.Json.Typed
import Signet.Json.Printer

/-! What a client presents to prove who it is, and what the verifier of credentials says about it.
Messages never show the proof itself. -/

namespace Signet

/-- What a client presents; only the verifier looks at the proof. -/
structure Credential where
  /-- Account name or address. -/
  identifier : String
  /-- Password, or what stands for one. -/
  proof : String
  deriving DecidableEq, Repr

/-- What the verifier says about a credential. -/
structure Verification where
  /-- Whom the credential belongs to. -/
  subject : String
  ok : Bool
  /-- Whether the subject may ask for privileged permissions. -/
  privileged : Bool
  deriving DecidableEq, Repr

namespace Credential

/-- What messages show of a credential. -/
def shown (credential : Credential) : String :=
  s!"Credential \x7b identifier: {Text.quoted credential.identifier}, .. \x7d"

/-- The JSON text of a credential. -/
def json (credential : Credential) : Bytes :=
  Json.Print.object [("identifier", Json.Print.text credential.identifier),
    ("secret", Json.Print.text credential.proof)]

/-- The members of a credential. -/
def members : List (Json.Member (Option String × Option String)) := [
  ⟨"identifier", .required, (·.1.isSome), fun draft => do
    return (some (← Json.text), draft.2)⟩,
  ⟨"secret", .required, (·.2.isSome), fun draft => do
    return (draft.1, some (← Json.text))⟩]

/-- Reads a credential from JSON. -/
def read : Reader Json.Fault Credential :=
  Json.record "a credential" members (none, none) fun draft => do
    let identifier ← Json.Member.demand "identifier" draft.1
    let proof ← Json.Member.demand "secret" draft.2
    return ⟨identifier, proof⟩

end Credential

namespace Verification

/-- The JSON text of a verification. -/
def json (verification : Verification) : Bytes :=
  Json.Print.object [("subject", Json.Print.text verification.subject),
    ("ok", Json.Print.boolean verification.ok),
    ("privileged", Json.Print.boolean verification.privileged)]

/-- A verification of which not every member has been read. -/
structure Draft where
  subject : Option String := none
  ok : Option Bool := none
  privileged : Option Bool := none

/-- The members of a verification. -/
def members : List (Json.Member Draft) := [
  ⟨"subject", .required, (·.subject.isSome), fun draft => do
    return { draft with subject := some (← Json.text) }⟩,
  ⟨"ok", .required, (·.ok.isSome), fun draft => do
    return { draft with ok := some (← Json.boolean) }⟩,
  ⟨"privileged", .defaulted, (·.privileged.isSome), fun draft => do
    return { draft with privileged := some (← Json.boolean) }⟩]

/-- Reads a verification from JSON; privilege has to be stated. -/
def read : Reader Json.Fault Verification :=
  Json.record "a verification" members {} fun draft => do
    let subject ← Json.Member.demand "subject" draft.subject
    let ok ← Json.Member.demand "ok" draft.ok
    return ⟨subject, ok, draft.privileged.getD false⟩

end Verification
end Signet
