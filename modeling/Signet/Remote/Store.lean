import Signet.Remote.Client
import Signet.Store.Access
import Signet.Store.Service

/-! A store behind a peer. Each call becomes one request; times are cut to whole milliseconds. -/

namespace Signet.Remote

/-- A store behind a peer, which may look at the store's clock. -/
structure Link (σ : Type) where
  peer : Instant → Peer σ
  state : σ

/-- The number of milliseconds that a request can name. -/
def ttlMillis (ttl : Span) : UInt64 := UInt64.ofNat (min ttl.toMillis (UInt64.size - 1))

namespace Link

variable {σ α β : Type}

/-- What a request comes to. -/
def outcome (link : Link σ) (reply : Except Failure α × σ) (image : α → β)
    (reports : α → List Log.Event) : Outcome (Link σ) β :=
  match reply with
  | (.ok value, state) => ⟨.ok (image value), reports value, { link with state }⟩
  | (.error failure, state) => ⟨.error failure.toStoreError, [], { link with state }⟩

/-- What is reported of a look-up. -/
def lookupReport (keys : List String) (found : Store.Findings) : List Log.Event :=
  [⟨.debug, "store get", [("requested", toString keys.length),
    ("found", toString found.secrets.size)]⟩]

/-- Asks for the visible secrets under some keys. -/
def look (link : Link σ) (now : Instant) (keys : List String) : Except Failure Store.Findings × σ :=
  (link.peer now).call .packed "POST" "/secrets/get" (Store.Lookup.mk keys) link.state

/-- Asks for a claim. -/
def claim (link : Link σ) (now : Instant) (key : String) (secret : Secret) (ttl : Span) :
    Except Failure Secret × σ :=
  (link.peer now).call .packed "POST" "/secrets/claim"
    (Store.Claiming.mk key secret (ttlMillis ttl)) link.state

/-- Replies that have a body can be such that they cannot be read on. -/
instance : SecretStore (Link σ) where
  get link now keys :=
    link.outcome (link.look now keys) Store.Findings.secrets (lookupReport keys)
  put link now secrets ttl :=
    link.outcome ((link.peer now).send .packed "PUT" "/secrets"
      (Store.Writing.mk secrets (ttlMillis ttl)) link.state) (fun _ => ()) fun _ => []
  claim link now key secret ttl := link.outcome (link.claim now key secret ttl) id fun _ => []
  delete link now keys :=
    link.outcome ((link.peer now).send .packed "DELETE" "/secrets" (Store.Erasure.mk keys)
      link.state) (fun _ => ()) fun _ => []
  breaks link now
    | .get key => aborted (link.look now [key]).1
    | .claim key fresh ttl => aborted (link.claim now key fresh ttl).1
    | .delete _ => false

end Link

/-- A served store as a peer. A request whose body cannot be read on gets no reply. -/
def servedStore (now : Instant) : Peer Store where
  deliver request store :=
    let served := store.handle now request
    match served.reply with
    | some reply => (.ok ⟨reply.status, .ok reply.body⟩, served.after)
    | none => (.error "connection closed before message completed", served.after)

/-- A store behind its service. -/
def Link.ofStore (store : Store) : Link Store := ⟨servedStore, store⟩

end Signet.Remote
