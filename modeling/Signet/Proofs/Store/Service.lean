import Signet.Proofs.Store.Messages
import Signet.Store.Service

/-! A served store changes only where a request for a change is granted, and what is written through
the service is due within the limit. -/

namespace Signet

namespace Http.Request

/-- The body of a request is read as this. -/
def Bears {α : Type} [Message α] (request : Request) (body : α) : Prop :=
  ∃ bytes, request.body = some bytes ∧ Encoding.packed.decode bytes = .ok body

/-- A request that goes where secrets are written. -/
def Puts (request : Request) : Prop := request.method = "PUT" ∧ request.path = "/secrets"

/-- A request that goes where a secret is claimed. -/
def Claims (request : Request) : Prop := request.method = "POST" ∧ request.path = "/secrets/claim"

/-- A request that goes where keys are dropped. -/
def Deletes (request : Request) : Prop := request.method = "DELETE" ∧ request.path = "/secrets"

/-- A request that is to change the store. -/
def Alters (request : Request) : Prop := request.Puts ∨ request.Claims ∨ request.Deletes

/-- A request for a secret to stay as many milliseconds. -/
def Asks (request : Request) (millis : UInt64) : Prop :=
  (request.Puts ∧ ∃ secrets, request.Bears (Store.Writing.mk secrets millis)) ∨
    (request.Claims ∧ ∃ key secret, request.Bears (Store.Claiming.mk key secret millis))

end Http.Request

namespace Store

open Http (Reply Request Status)

/-- The longest time that a secret may stay. -/
def limit : Span := Span.ofSeconds Settings.greatestTtl

/-- What may come of a request. Only the last three answers change the store. -/
inductive Comes (store : Store) (now : Instant) (request : Request) : Served → Prop where
  | refused {status : Status} (reports : List Log.Event) (error : status ≠ .ok) :
      Comes store now request ⟨some { status }, reports, store⟩
  | stuck : Comes store now request ⟨none, [], store⟩
  | found (body : Lookup) : Comes store now request (store.serveGet now body)
  | written {ttl : Span} {after : Store} (body : Writing) (puts : request.Puts)
      (short : ttl ≤ limit) (done : store.put now body.entries ttl = .ok after) :
      Comes store now request ⟨some { status := .ok }, [], after⟩
  | claimed {ttl : Span} {live : Secret} {after : Store} (body : Claiming) (claims : request.Claims)
      (short : ttl ≤ limit) (done : store.claim now body.key body.secret ttl = .ok (live, after)) :
      Comes store now request ⟨some (answered live), [], after⟩
  | deleted (body : Erasure) (deletes : request.Deletes) :
      Comes store now request ⟨some { status := .ok }, [], store.delete body.keys⟩

section

variable {store : Store} {now : Instant} {request : Request}

theorem comes_failed (error : StoreError) : Comes store now request (store.failed error) := by
  cases error with
  | protocol detail => exact .refused _ (by decide)
  | unavailable detail => exact .refused _ (by decide)

theorem comes_withBody {α : Type} [Message α] {next : α → Served}
    (each : ∀ body, Comes store now request (next body)) :
    Comes store now request (store.withBody request next) := by
  unfold withBody
  split
  case h_1 => exact .refused _ (by decide)
  case h_2 bytes held =>
    split
    case h_1 body read => exact each body
    case h_2 => exact .refused _ (by decide)
    case h_3 => exact .stuck

theorem acceptedTtl_eq_some_iff {millis : UInt64} {ttl : Span} :
    acceptedTtl millis = some ttl ↔ ttl = Span.ofMillis millis.toNat ∧ ttl ≤ limit := by
  unfold acceptedTtl limit
  by_cases short : Span.ofMillis millis.toNat ≤ Span.ofSeconds Settings.greatestTtl
  · simp only [short, ↓reduceIte, Option.some.injEq]
    constructor
    · rintro rfl
      exact ⟨rfl, short⟩
    · rintro ⟨rfl, -⟩
      rfl
  · simp only [short, ↓reduceIte, reduceCtorEq, false_iff]
    rintro ⟨rfl, fits⟩
    exact short fits

theorem comes_withTtl {millis : UInt64} {next : Span → Served}
    (each : ∀ ttl, ttl ≤ limit → Comes store now request (next ttl)) :
    Comes store now request (store.withTtl millis next) := by
  unfold withTtl
  cases accepted : acceptedTtl millis with
  | none => exact .refused _ (by decide)
  | some ttl => exact each ttl (acceptedTtl_eq_some_iff.mp accepted).2

theorem comes_servePut (puts : request.Puts) (body : Writing) :
    Comes store now request (store.servePut now body) := by
  refine comes_withTtl fun ttl short => ?_
  cases done : store.put now body.entries ttl with
  | ok after => exact .written body puts short done
  | error error => exact comes_failed error

theorem comes_serveClaim (claims : request.Claims) (body : Claiming) :
    Comes store now request (store.serveClaim now body) := by
  refine comes_withTtl fun ttl short => ?_
  cases done : store.claim now body.key body.secret ttl with
  | ok result => exact .claimed body claims short done
  | error error => exact comes_failed error

end

theorem comes_handle (store : Store) (now : Instant) (request : Request) :
    Comes store now request (store.handle now request) := by
  unfold handle
  split
  case h_1 => exact comes_withBody .found
  case h_2 method path => exact comes_withBody (comes_servePut ⟨method, path⟩)
  case h_3 method path => exact comes_withBody (comes_serveClaim ⟨method, path⟩)
  case h_4 method path => exact comes_withBody fun body => .deleted body ⟨method, path⟩
  case h_5 => exact .refused _ (by decide)

/-- Whatever is due later than this was already due then. -/
def Within (moment : Instant) (before after : Store) : Prop :=
  ∀ key entry, after.entries.find? key = some entry → entry.deadline ≤ moment ∨
    ∃ former, before.entries.find? key = some former ∧ former.deadline = entry.deadline

namespace Within

variable {moment later : Instant} {store middle after : Store}

theorem refl (moment : Instant) (store : Store) : Within moment store store :=
  fun _ entry found => .inr ⟨entry, found, rfl⟩

theorem trans (first : Within moment store middle) (second : Within moment middle after) :
    Within moment store after := by
  intro key entry found
  rcases second key entry found with soon | ⟨former, held, same⟩
  · exact .inl soon
  · exact same ▸ first key former held

theorem mono (within : Within moment store after) (earlier : moment ≤ later) :
    Within later store after :=
  fun key entry found => (within key entry found).imp_left fun soon => Nat.le_trans soon earlier

theorem insert {key : String} {entry : Entry} (due : entry.deadline ≤ moment ∨
    ∃ former, store.entries.find? key = some former ∧ former.deadline = entry.deadline) :
    Within moment store ⟨store.entries.insert key entry⟩ := by
  intro other kept found
  by_cases same : other = key
  · subst same
    rw [Dict.find?_insert_self] at found
    obtain rfl := Option.some.inj found
    exact due
  · rw [Dict.find?_insert_of_ne _ _ same] at found
    exact .inr ⟨kept, found, rfl⟩

variable {now : Instant} {ttl : Span}

theorem put {secrets : Dict Secret} (short : ttl ≤ limit)
    (done : store.put now secrets ttl = .ok after) : Within (now + limit) store after := by
  cases ranged : deadline now ttl with
  | error error => simp [Store.put, ranged, bind, Except.bind] at done
  | ok moment =>
    simp only [Store.put, ranged, bind, Except.bind, pure, Except.pure, Except.ok.injEq] at done
    subst done
    intro key entry found
    rw [find?_foldl_insert, Option.or_eq_some_iff] at found
    rcases found with wrote | ⟨-, before⟩
    · obtain ⟨secret, -, rfl⟩ := Option.map_eq_some_iff.mp wrote
      obtain rfl := (deadline_eq_ok_iff.mp ranged).2
      exact .inl (Nat.add_le_add_left short now)
    · exact .inr ⟨entry, before, rfl⟩

theorem claim {key : String} {fresh live : Secret} (short : ttl ≤ limit)
    (done : store.claim now key fresh ttl = .ok (live, after)) :
    Within (now + limit) store after := by
  rcases store.claim_cases now key fresh ttl with ⟨error, -, failed⟩ | ⟨moment, ranged, cases⟩
  · rw [failed] at done
    cases done
  obtain rfl := (deadline_eq_ok_iff.mp ranged).2
  have soon := Nat.add_le_add_left short now
  rcases cases with ⟨entry, seen, made⟩ | ⟨-, made⟩
  · rw [made] at done
    cases done
    have held := (live?_eq_some_iff.mp seen).1
    -- The later one of the two moments stays: the one that was, or the one that is asked for.
    rcases Nat.le_total (now + ttl) entry.deadline with early | late
    · exact insert (.inr ⟨entry, held, (Nat.max_eq_left early).symm⟩)
    · exact insert (.inl (Nat.le_trans (Nat.le_of_eq (Nat.max_eq_right late)) soon))
  · rw [made] at done
    cases done
    exact insert (.inl soon)

theorem delete (keys : List String) : Within moment store (store.delete keys) := by
  intro key entry found
  rw [find?_delete] at found
  split at found
  case isTrue => cases found
  case isFalse => exact .inr ⟨entry, found, rfl⟩

end Within

theorem Comes.unchanged {store : Store} {now : Instant} {request : Request} {served : Served}
    (comes : Comes store now request served) (changed : served.after ≠ store) :
    request.Alters ∧ ∃ reply, served.reply = some reply ∧ reply.status = .ok := by
  cases comes with
  | refused | stuck | found => exact absurd rfl changed
  | written _ puts => exact ⟨.inl puts, _, rfl, rfl⟩
  | claimed _ claims => exact ⟨.inr (.inl claims), _, rfl, rfl⟩
  | deleted _ deletes => exact ⟨.inr (.inr deletes), _, rfl, rfl⟩

theorem Comes.within {store : Store} {now : Instant} {request : Request} {served : Served}
    (comes : Comes store now request served) : Within (now + limit) store served.after := by
  cases comes with
  | refused | stuck | found => exact .refl _ store
  | written _ _ short done => exact .put short done
  | claimed _ _ short done => exact .claim short done
  | deleted body => exact .delete body.keys

theorem withBody_of_bears {α : Type} [Message α] {store : Store} {request : Request} {body : α}
    (bears : request.Bears body) (next : α → Served) : store.withBody request next = next body := by
  obtain ⟨bytes, held, read⟩ := bears
  simp only [withBody, held, read]

theorem withTtl_of_long {millis : UInt64} (long : limit < Span.ofMillis millis.toNat)
    (store : Store) (next : Span → Served) :
    store.withTtl millis next = store.unchanged .badRequest := by
  have none : acceptedTtl millis = none := if_neg (Nat.not_le_of_lt long)
  rw [withTtl, none]
  rfl

/-- A store with a single entry. -/
def oneEntry : Store := ⟨⟨[("b", ⟨⟨[1]⟩, 5⟩)], by decide⟩⟩

/-- Only a request for a change that is granted changes the store, one for too long a time is
refused, and no entry comes to be due later than the limit after now. -/
theorem handle_spares (store : Store) (now : Instant) (request : Request) :
    ((store.handle now request).after ≠ store → request.Alters ∧
      ∃ reply, (store.handle now request).reply = some reply ∧ reply.status = .ok) ∧
    (∀ millis, request.Asks millis → limit < Span.ofMillis millis.toNat →
      store.handle now request = store.unchanged .badRequest) ∧
    Within (now + limit) store (store.handle now request).after := by
  refine ⟨(comes_handle store now request).unchanged, ?_, (comes_handle store now request).within⟩
  rintro millis (⟨⟨method, path⟩, secrets, bears⟩ | ⟨⟨method, path⟩, key, secret, bears⟩) long
  · simp only [handle, method, path]
    rw [withBody_of_bears bears]
    exact withTtl_of_long long store _
  · simp only [handle, method, path]
    rw [withBody_of_bears bears]
    exact withTtl_of_long long store _

/-- Dropping a key that is held changes the store, and a claim for a millisecond too long is
refused. -/
theorem handle_spares_oneEntry :
    ((oneEntry.handle 0 ⟨"DELETE", "/secrets", [],
        some (Message.packed (Erasure.mk ["b"]))⟩).after ≠ oneEntry ∧
      ∃ reply, (oneEntry.handle 0 ⟨"DELETE", "/secrets", [],
        some (Message.packed (Erasure.mk ["b"]))⟩).reply = some reply ∧ reply.status = .ok) ∧
    oneEntry.handle 0 ⟨"POST", "/secrets/claim", [],
      some (Message.packed (Claiming.mk "b" ⟨[2]⟩ 604800001))⟩ =
        oneEntry.unchanged .badRequest := by
  have named : PortableNames ["b"] := portableNames_of_length_le (by decide)
  have keepable : (Secret.mk [2]).Keepable := Secret.keepable_of_length_le (by decide)
  have whole : (604800001 : UInt64).toNat < Pack.capacity 7 := by decide
  have dropped : (oneEntry.handle 0 ⟨"DELETE", "/secrets", [],
      some (Message.packed (Erasure.mk ["b"]))⟩).after ≠ oneEntry := by
    have path : Http.pathOf "/secrets" = "/secrets" := by decide
    have read := Message.decode_erasure named (Message.short_keys named)
    simp only [handle, Request.path, path, withBody, read, serveDelete]
    decide
  have read := Message.decode_claiming keepable.1 (Pack.written_of_lt whole)
    (Message.short_claiming named keepable (Pack.written_of_lt whole))
  rw [Pack.kept_of_lt whole] at read
  have granted := ((handle_spares ..).1 dropped).2
  refine ⟨⟨dropped, granted⟩, (handle_spares ..).2.1 604800001 ?_ (by decide)⟩
  exact .inr ⟨⟨rfl, by decide⟩, "b", ⟨[2]⟩, _, rfl, read⟩

/-- The store after some requests, each at its own time. -/
def afterAll (store : Store) (requests : List (Instant × Request)) : Store :=
  requests.foldl (fun store arrival => (store.handle arrival.1 arrival.2).after) store

/-- However many requests are served by a moment, what they write is due within the limit after
it. -/
theorem within_afterAll {last : Instant} (store : Store) {requests : List (Instant × Request)}
    (past : ∀ arrival ∈ requests, arrival.1 ≤ last) :
    Within (last + limit) store (store.afterAll requests) := by
  induction requests generalizing store with
  | nil => exact .refl _ store
  | cons arrival requests ih =>
    have first := (comes_handle store arrival.1 arrival.2).within.mono
      (Nat.add_le_add_right (past arrival (List.mem_cons_self ..)) limit)
    exact first.trans (ih _ fun other member => past other (List.mem_cons_of_mem _ member))

end Store
end Signet
