import Signet.Proofs.Store.Effect

/-! Stores that are used again and again while their clock goes on. -/

namespace Signet

/-- A store that can drop what is no longer visible, and counts what it has dropped. -/
class Purging (σ : Type) where
  purge : σ → Instant → Nat × σ

instance : Purging Store where
  purge := Store.purge

/-- What the uses of a store answer. -/
inductive Access.Reply where
  | found (secrets : Dict Secret)
  | done
  | secret (visible : Secret)
  | purged (count : Nat)

theorem Outcome.after_map {σ α β : Type} (image : α → β) (outcome : Outcome σ α) :
    (outcome.map image).after = outcome.after := rfl

namespace Access

/-- What a use comes to. -/
def outcome {σ : Type} [SecretStore σ] [Purging σ] (store : σ) (now : Instant) :
    Access → Outcome σ Access.Reply
  | get keys => (SecretStore.get store now keys).map .found
  | put secrets ttl => (SecretStore.put store now secrets ttl).map fun _ => .done
  | claim key fresh ttl => (SecretStore.claim store now key fresh ttl).map .secret
  | delete keys => (SecretStore.delete store now keys).map fun _ => .done
  | purge =>
    let (count, kept) := Purging.purge store now
    ⟨.ok (.purged count), Store.purgeReport count, kept⟩

theorem after_outcome (store : Store) (now : Instant) (access : Access) :
    (access.outcome store now).after = access.after now store := by
  cases access <;> rfl

def isPurge : Access → Bool
  | purge => true
  | get _ | put .. | claim .. | delete _ => false

/-- The time for which it writes. -/
def ttl? : Access → Option Span
  | put _ ttl | claim _ _ ttl => some ttl
  | get _ | delete _ | purge => none

end Access

/-- A use of a store, or time that passes. -/
inductive Move where
  | use (access : Access)
  | wait (span : Span)

def Move.isPurge : Move → Bool
  | use access => access.isPurge
  | wait _ => false

@[simp] theorem Move.isPurge_use (access : Access) : (use access).isPurge = access.isPurge := rfl

/-- A store and its clock. -/
structure Site (σ : Type) where
  clock : Instant
  store : σ

namespace Site

variable {σ : Type} [SecretStore σ] [Purging σ]

def step (site : Site σ) : Move → Site σ
  | .use access => { site with store := (access.outcome site.store site.clock).after }
  | .wait span => { site with clock := site.clock + span }

def after (site : Site σ) (moves : List Move) : Site σ := moves.foldl step site

/-- The uses among some moves, with what each answers. -/
def answers (site : Site σ) : List Move → List (Access × Except StoreError Access.Reply)
  | [] => []
  | .use access :: moves =>
    (access, (access.outcome site.store site.clock).answer) ::
      (site.step (.use access)).answers moves
  | .wait span :: moves => (site.step (.wait span)).answers moves

/-- The answers alone. -/
def replies (site : Site σ) (moves : List Move) : List (Except StoreError Access.Reply) :=
  (site.answers moves).map Prod.snd

theorem replies_use (site : Site σ) (access : Access) (moves : List Move) :
    site.replies (.use access :: moves) = (access.outcome site.store site.clock).answer ::
      (site.step (.use access)).replies moves := rfl

@[simp] theorem after_cons (site : Site σ) (move : Move) (moves : List Move) :
    site.after (move :: moves) = (site.step move).after moves := rfl

end Site
end Signet
