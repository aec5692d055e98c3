import Signet.Operation
import Signet.Store

/-! Stores as their callers see them, near or far: four calls, each of which may fail and may change
the store. -/

namespace Signet

/-- What a call comes to. -/
structure Outcome (σ α : Type) where
  answer : Except StoreError α
  /-- What is reported meanwhile. -/
  reports : List Log.Event
  /-- The store after the call. -/
  after : σ

/-- The same outcome with another answer. -/
def Outcome.map {σ α β : Type} (image : α → β) (outcome : Outcome σ α) : Outcome σ β :=
  ⟨outcome.answer.map image, outcome.reports, outcome.after⟩

/-- A store of secrets by key. -/
class SecretStore (σ : Type) where
  /-- The visible secrets under some keys. -/
  get : σ → Instant → List String → Outcome σ (Dict Secret)
  /-- Writes secrets for some time. -/
  put : σ → Instant → Dict Secret → Span → Outcome σ Unit
  /-- Writes a secret unless a visible one is there, and answers the visible one. -/
  claim : σ → Instant → String → Secret → Span → Outcome σ Secret
  /-- Drops keys. -/
  delete : σ → Instant → List String → Outcome σ Unit
  /-- Whether the answer to a call cannot be read on, so that its caller breaks off and never learns
  what the call comes to. -/
  breaks : σ → Instant → StoreCall → Bool := fun _ _ _ => false

/-- What a store answers to a call of an operation. -/
def SecretStore.answer {σ : Type} [SecretStore σ] (store : σ) (now : Instant) :
    (call : StoreCall) → Outcome σ call.Answer
  | .get key => (SecretStore.get store now [key]).map fun found : Dict Secret => found.find? key
  | .claim key fresh ttl => SecretStore.claim store now key fresh ttl
  | .delete key => SecretStore.delete store now [key]

instance : SecretStore Store where
  get store now keys := ⟨.ok (store.get now keys), [], store⟩
  put store now secrets ttl :=
    match store.put now secrets ttl with
    | .ok after => ⟨.ok (), [], after⟩
    | .error error => ⟨.error error, [], store⟩
  claim store now key secret ttl :=
    match store.claim now key secret ttl with
    | .ok (live, after) => ⟨.ok live, [], after⟩
    | .error error => ⟨.error error, [], store⟩
  delete store _ keys := ⟨.ok (), [], store.delete keys⟩

end Signet
