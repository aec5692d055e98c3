import Signet.Http
import Signet.Message
import Signet.Settings
import Signet.Store

/-! A store of secrets as a service. Four routes lead to its four calls; whatever a request holds
that is not one of them, or is refused, leaves the store as it is. -/

namespace Signet.Store

open Http (Reply Request Status)

/-- What the service reports of a failed call, and how it answers it. What the store refused is the
fault of the request. -/
def failure : StoreError → Log.Event × Status
  | .protocol detail => (⟨.info, "refused store request", [("error", detail)]⟩, .badRequest)
  | .unavailable detail => (⟨.error, "store call failed", [("error", detail)]⟩, .internalError)

/-- The time that a request names, if a secret may stay that long. -/
def acceptedTtl (millis : UInt64) : Option Span :=
  let ttl := Span.ofMillis millis.toNat
  if ttl ≤ Span.ofSeconds Settings.greatestTtl then some ttl else none

/-- What comes of a request. -/
structure Served where
  /-- The reply; none if the body could not be read on. -/
  reply : Option Reply
  reports : List Log.Event
  after : Store

/-- A reply that leaves the store as it is. -/
def unchanged (store : Store) (status : Status) : Served := ⟨some { status }, [], store⟩

/-- A reply with a body. A secret and a list of findings can always be written, so that there is
no other reply for a body that cannot. -/
def answered {α : Type} [Message α] (body : α) : Reply :=
  { status := .ok, body := Message.packed body }

/-- The outcome of a failed call. -/
def failed (store : Store) (error : StoreError) : Served :=
  let (event, status) := failure error
  ⟨some { status }, [event], store⟩

/-- Reads a body and goes on with it. A body that broke off or holds something else is refused. -/
def withBody {α : Type} [Message α] (store : Store) (request : Request) (next : α → Served) :
    Served :=
  match request.body with
  | none => store.unchanged .badRequest
  | some bytes =>
    match Encoding.packed.decode bytes with
    | .ok body => next body
    | .error .malformed => store.unchanged .badRequest
    | .error .abort => ⟨none, [], store⟩

/-- Goes on with a time that is accepted. -/
def withTtl (store : Store) (millis : UInt64) (next : Span → Served) : Served :=
  (acceptedTtl millis).elim (store.unchanged .badRequest) next

/-- Answers a look-up. What is found can be written, whatever it is. -/
def serveGet (store : Store) (now : Instant) (body : Lookup) : Served :=
  ⟨some (answered (Findings.mk (store.get now body.keys))), [], store⟩

def servePut (store : Store) (now : Instant) (body : Writing) : Served :=
  store.withTtl body.ttlMillis fun ttl =>
    match store.put now body.entries ttl with
    | .ok after => ⟨some { status := .ok }, [], after⟩
    | .error error => store.failed error

/-- Answers a claim. So can the secret that is visible after it, so that a claim that has been made is
never answered with a failure. -/
def serveClaim (store : Store) (now : Instant) (body : Claiming) : Served :=
  store.withTtl body.ttlMillis fun ttl =>
    match store.claim now body.key body.secret ttl with
    | .ok (live, after) => ⟨some (answered live), [], after⟩
    | .error error => store.failed error

def serveDelete (store : Store) (body : Erasure) : Served :=
  ⟨some { status := .ok }, [], store.delete body.keys⟩

/-- Answers a request. -/
def handle (store : Store) (now : Instant) (request : Request) : Served :=
  match request.method, request.path with
  | "POST", "/secrets/get" => store.withBody request (store.serveGet now)
  | "PUT", "/secrets" => store.withBody request (store.servePut now)
  | "POST", "/secrets/claim" => store.withBody request (store.serveClaim now)
  | "DELETE", "/secrets" => store.withBody request store.serveDelete
  | _, _ => store.unchanged .notFound

end Signet.Store
