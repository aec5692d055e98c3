import Mathlib.Data.List.Forall2
import Signet.Proofs.Store.Messages
import Signet.Proofs.Store.Sequence
import Signet.Remote.Store

/-! A store behind its service answers like the store itself, as long as every message can be read
back. Of a time only the low seven bytes of its milliseconds arrive; so one whose top byte alone
tells that it is too long is not refused. -/

namespace Signet

/-- A store whose callers' times are cut to whole milliseconds, and refused if they are too long. -/
structure Trimmed where
  store : Store

namespace Trimmed

/-- The time for which a caller's secret is written. -/
def span? (ttl : Span) : Option Span :=
  if ttl.toMillis ≤ Settings.greatestTtl * 1000 then some (Span.ofMillis ttl.toMillis) else none

/-- The outcome of a call to the store. -/
def lift {α : Type} (outcome : Outcome Store α) : Outcome Trimmed α :=
  ⟨outcome.answer, outcome.reports, ⟨outcome.after⟩⟩

/-- The outcome of a call that is refused. -/
def refused {α : Type} (trimmed : Trimmed) : Outcome Trimmed α :=
  ⟨.error (.protocol "the time is too long"), [], trimmed⟩

instance : SecretStore Trimmed where
  get trimmed now keys := lift (SecretStore.get trimmed.store now keys)
  put trimmed now secrets ttl :=
    (span? ttl).elim trimmed.refused fun span =>
      lift (SecretStore.put trimmed.store now secrets span)
  claim trimmed now key fresh ttl :=
    (span? ttl).elim trimmed.refused fun span =>
      lift (SecretStore.claim trimmed.store now key fresh span)
  delete trimmed now keys := lift (SecretStore.delete trimmed.store now keys)

variable (trimmed : Trimmed) (now : Instant) (ttl : Span)

theorem put_eq (secrets : Dict Secret) : SecretStore.put trimmed now secrets ttl =
    (span? ttl).elim trimmed.refused fun span =>
      lift (SecretStore.put trimmed.store now secrets span) := rfl

theorem claim_eq (key : String) (fresh : Secret) : SecretStore.claim trimmed now key fresh ttl =
    (span? ttl).elim trimmed.refused fun span =>
      lift (SecretStore.claim trimmed.store now key fresh span) := rfl

instance : Purging Trimmed where
  purge trimmed now :=
    let (count, kept) := trimmed.store.purge now
    (count, ⟨kept⟩)

end Trimmed

/-- Answers that differ in the wording of a failure at most. -/
inductive Alike {α : Type} : Except StoreError α → Except StoreError α → Prop where
  | ok (value : α) : Alike (.ok value) (.ok value)
  | unavailable (first second : String) :
    Alike (.error (.unavailable first)) (.error (.unavailable second))
  | protocol (first second : String) : Alike (.error (.protocol first)) (.error (.protocol second))

theorem Alike.eq_ok {α : Type} {far : Except StoreError α} {value : α}
    (alike : Alike far (.ok value)) : far = .ok value := by
  cases alike
  rfl

namespace Remote

open Http (Status)
open Message (Short)

/-- Something is written of a time, unless there is none. -/
def Written (ttl : Span) : Prop := Pack.kept (ttlMillis ttl) = 0 → ttlMillis ttl = 0

/-- What arrives of a time. -/
def arriving (ttl : Span) : Span := Span.ofMillis (Pack.kept (ttlMillis ttl))

/-- A time that is too long for the service is so without the top byte of its milliseconds, too. -/
def Legible (ttl : Span) : Prop :=
  ttl.toMillis ≤ Settings.greatestTtl * 1000 ∨
    Settings.greatestTtl * 1000 < Pack.kept (ttlMillis ttl)

/-- The messages of a use of a store, there and back, can be read. -/
def Carried (store : Store) (now : Instant) : Access → Prop
  | .get keys => PortableNames keys ∧ Short (Store.Lookup.mk keys) ∧
    (∀ entry ∈ (store.get now keys).entries, entry.2.Portable) ∧
    Short (Store.Findings.mk (store.get now keys))
  | .put secrets ttl => (∀ entry ∈ secrets.entries, entry.2.Portable) ∧ Written ttl ∧
    Short (Store.Writing.mk secrets (ttlMillis ttl))
  | .claim key fresh ttl => fresh.Portable ∧ Written ttl ∧
    Short (Store.Claiming.mk key fresh (ttlMillis ttl)) ∧
    ∀ entry, store.live? now key = some entry → entry.secret.Portable ∧ Short entry.secret
  | .delete keys => PortableNames keys ∧ Short (Store.Erasure.mk keys)
  | .purge => True

theorem toNat_ttlMillis (ttl : Span) :
    (ttlMillis ttl).toNat = min ttl.toMillis (UInt64.size - 1) := by
  simp only [ttlMillis, UInt64.toNat_ofNat', UInt64.size]
  omega

theorem toNat_kept (millis : UInt64) :
    (UInt64.ofNat (Pack.kept millis)).toNat = Pack.kept millis := by
  have small : Pack.kept millis < Pack.capacity 7 := Nat.mod_lt _ (by decide)
  simp only [Pack.capacity] at small
  simp only [UInt64.toNat_ofNat']
  omega

theorem toMillis_ofMillis (millis : Nat) : (Span.ofMillis millis).toMillis = millis :=
  Nat.mul_div_cancel millis (by decide)

/-- The service takes the time that arrives, or refuses it. -/
theorem acceptedTtl_arriving (ttl : Span) :
    Store.acceptedTtl (UInt64.ofNat (Pack.kept (ttlMillis ttl))) = Trimmed.span? (arriving ttl) := by
  have same : ∀ millis, Span.ofMillis millis ≤ Span.ofSeconds Settings.greatestTtl ↔
      millis ≤ Settings.greatestTtl * 1000 := by
    intro millis
    show millis * 1000000 ≤ 604800 * 1000000000 ↔ millis ≤ 604800 * 1000
    omega
  simp only [Store.acceptedTtl, toNat_kept, same, Trimmed.span?, arriving, toMillis_ofMillis]

theorem kept_of_short {ttl : Span} (short : ttl.toMillis ≤ Settings.greatestTtl * 1000) :
    Pack.kept (ttlMillis ttl) = ttl.toMillis := by
  simp only [Settings.greatestTtl] at short
  simp only [Pack.kept, toNat_ttlMillis, Pack.capacity, UInt64.size]
  omega

namespace Legible

variable {ttl : Span} (legible : Legible ttl)
include legible

theorem written : Written ttl := by
  intro none
  rcases legible with short | long
  · rw [kept_of_short short] at none
    simp [ttlMillis, none]
  · omega

theorem span?_arriving : Trimmed.span? (arriving ttl) = Trimmed.span? ttl := by
  rw [Trimmed.span?, Trimmed.span?, arriving, toMillis_ofMillis]
  rcases legible with short | long
  · rw [kept_of_short short]
  · have reaches : Pack.kept (ttlMillis ttl) ≤ ttl.toMillis := by
      refine Nat.le_trans (Nat.mod_le _ _) ?_
      rw [toNat_ttlMillis]
      exact Nat.min_le_left ..
    rw [if_neg (Nat.not_le_of_lt long), if_neg (Nat.not_le_of_lt (Nat.lt_of_lt_of_le long reaches))]

end Legible

section

variable {store after : Store} {now : Instant} {method path : String} {reports : List Log.Event}

theorem path_get : Http.pathOf "/secrets/get" = "/secrets/get" := by decide

theorem path_secrets : Http.pathOf "/secrets" = "/secrets" := by decide

theorem path_claim : Http.pathOf "/secrets/claim" = "/secrets/claim" := by decide

/-- A reply with a body is understood if the body is. -/
theorem call_of_answered {α β : Type} [Message α] [Message β] {body : α} {reply : β}
    (served : store.handle now ⟨method, path, [], some (Message.packed body)⟩ =
      ⟨some (Store.answered reply), reports, after⟩)
    (read : Encoding.packed.decode (Message.packed reply) = .ok reply) :
    (servedStore now).call .packed method path body store = (.ok reply, after) := by
  simp [Peer.call, Peer.send, servedStore, Encoding.encode, served, Store.answered, Answer.counted,
    decoded, read]

theorem send_of_status {α : Type} [Message α] {body : α} {status : Status}
    (served : store.handle now ⟨method, path, [], some (Message.packed body)⟩ =
      ⟨some { status }, reports, after⟩) :
    (servedStore now).send .packed method path body store =
      (if status = .ok then .ok [] else .error (.status status), after) := by
  simp [Peer.send, servedStore, Encoding.encode, served, Answer.counted]

theorem call_of_refused {α β : Type} [Message α] [Message β] {body : α} {status : Status}
    (served : store.handle now ⟨method, path, [], some (Message.packed body)⟩ =
      ⟨some { status }, reports, after⟩) (refused : status ≠ .ok) :
    ((servedStore now).call .packed method path body store : Except Failure β × Store) =
      (.error (.status status), after) := by
  rw [Peer.call, send_of_status served, if_neg refused]

end

/-- What a call comes to far away and nearby. -/
structure Mirrors {α : Type} (far : Outcome (Link Store) α) (near : Outcome Trimmed α) : Prop where
  answer : Alike far.answer near.answer
  after : far.after = Link.ofStore near.after.store

variable {store : Store} {now : Instant}

theorem peer_ofStore : (Link.ofStore store).peer = servedStore := rfl

theorem state_ofStore : (Link.ofStore store).state = store := rfl

theorem look_ofStore {keys : List String} (carried : Carried store now (.get keys)) :
    (Link.ofStore store).look now keys = (.ok ⟨store.get now keys⟩, store) := by
  obtain ⟨names, short, portable, reply⟩ := carried
  have served : store.handle now ⟨"POST", "/secrets/get", [],
      some (Message.packed (Store.Lookup.mk keys))⟩ = store.serveGet now ⟨keys⟩ := by
    simp [Store.handle, Http.Request.path, path_get, Store.withBody,
      Message.decode_lookup names short]
  exact call_of_answered served (Message.decode_findings portable reply)

theorem get_ofStore {keys : List String} (carried : Carried store now (.get keys)) :
    SecretStore.get (Link.ofStore store) now keys = ⟨.ok (store.get now keys),
      Link.lookupReport keys ⟨store.get now keys⟩, Link.ofStore store⟩ := by
  show (Link.ofStore store).outcome ((Link.ofStore store).look now keys) _ _ = _
  rw [look_ofStore carried]
  rfl

theorem delete_ofStore {keys : List String} (carried : Carried store now (.delete keys)) :
    SecretStore.delete (Link.ofStore store) now keys =
      ⟨.ok (), [], Link.ofStore (store.delete keys)⟩ := by
  obtain ⟨names, short⟩ := carried
  have served : store.handle now ⟨"DELETE", "/secrets", [],
      some (Message.packed (Store.Erasure.mk keys))⟩ = store.serveDelete ⟨keys⟩ := by
    simp [Store.handle, Http.Request.path, path_secrets, Store.withBody,
      Message.decode_erasure names short]
  have sent := send_of_status served
  simp [SecretStore.delete, Link.outcome, Link.ofStore, sent]

/-- The code that a failure is answered with tells its kind. -/
theorem alike_failure {α : Type} (error : StoreError) :
    (Store.failure error).2 ≠ .ok ∧ Alike (α := α)
      (.error (Failure.status (Store.failure error).2).toStoreError) (.error error) := by
  cases error with
  | unavailable detail => exact ⟨by simp [Store.failure, Status.internalError, Status.ok],
      .unavailable _ detail⟩
  | protocol detail => exact ⟨by simp [Store.failure, Status.badRequest, Status.ok],
      .protocol _ detail⟩

section

variable {α β : Type} {reports : α → List Log.Event}

theorem mirrors_ok (image : α → β) (near : Outcome Trimmed β) {value : α}
    (answer : near.answer = .ok (image value)) :
    Mirrors ((Link.ofStore store).outcome (.ok value, near.after.store) image reports) near :=
  ⟨by rw [answer]; exact .ok _, rfl⟩

theorem mirrors_failure {image : α → β} {near : Outcome Trimmed β} (error : StoreError)
    (answer : near.answer = .error error) (kept : near.after.store = store) :
    Mirrors ((Link.ofStore store).outcome (.error (.status (Store.failure error).2), store) image
      reports) near :=
  ⟨by rw [answer]; exact (alike_failure error).2, by rw [kept]; rfl⟩

end

theorem mirrors_put {secrets : Dict Secret} {ttl : Span}
    (carried : Carried store now (.put secrets ttl)) :
    Mirrors (SecretStore.put (Link.ofStore store) now secrets ttl)
      (SecretStore.put (Trimmed.mk store) now secrets (arriving ttl)) := by
  obtain ⟨portable, written, short⟩ := carried
  have read := Message.decode_writing portable written short
  have accepted := acceptedTtl_arriving ttl
  -- What the service makes of the time is all that is to be known of the number that it reads.
  generalize UInt64.ofNat (Pack.kept (ttlMillis ttl)) = millis at read accepted
  have served : store.handle now ⟨"PUT", "/secrets", [],
      some (Message.packed (Store.Writing.mk secrets (ttlMillis ttl)))⟩ =
      store.servePut now ⟨secrets, millis⟩ := by
    simp [Store.handle, Http.Request.path, path_secrets, Store.withBody, read]
  simp only [Store.servePut, Store.withTtl, accepted] at served
  simp only [SecretStore.put, peer_ofStore, state_ofStore]
  cases ranged : Trimmed.span? (arriving ttl) with
  | none =>
    simp only [ranged, Option.elim_none] at served ⊢
    rw [send_of_status served, if_neg (by simp [Status.badRequest, Status.ok])]
    exact mirrors_failure (.protocol _) rfl rfl
  | some span =>
    simp only [ranged, Option.elim_some] at served ⊢
    cases written : store.put now secrets span with
    | error error =>
      simp only [written, Store.failed] at served ⊢
      rw [send_of_status served, if_neg (alike_failure (α := Unit) error).1]
      exact mirrors_failure error rfl rfl
    | ok after =>
      simp only [written] at served ⊢
      rw [send_of_status served, if_pos rfl]
      exact mirrors_ok (fun _ => ()) ⟨.ok (), [], ⟨after⟩⟩ rfl

/-- The secret that a claim is answered with can be read. -/
theorem decode_claimed {key : String} {fresh live : Secret} {ttl span : Span} {after : Store}
    (carried : Carried store now (.claim key fresh ttl))
    (claimed : store.claim now key fresh span = .ok (live, after)) :
    Encoding.packed.decode (Message.packed live) = .ok live := by
  obtain ⟨portable, -, short, reply⟩ := carried
  rcases store.claim_cases now key fresh span with ⟨error, -, failed⟩ |
    ⟨renewed, -, ⟨entry, visible, same⟩ | ⟨-, same⟩⟩
  · rw [failed] at claimed
    cases claimed
  · rw [same] at claimed
    cases claimed
    exact Message.decode_secret (reply entry visible).1 (reply entry visible).2
  · rw [same] at claimed
    cases claimed
    have bounds := Pack.short_member ("secret", Message.secretPacked fresh) (by simp)
      short
    exact Message.decode_secret portable bounds.2

/-- A claim is replied to with what it comes to nearby. -/
theorem claim_ofStore {key : String} {fresh : Secret} {ttl : Span}
    (carried : Carried store now (.claim key fresh ttl)) :
    (Link.ofStore store).claim now key fresh ttl =
      ((SecretStore.claim (Trimmed.mk store) now key fresh (arriving ttl)).answer.mapError
          fun error => .status (Store.failure error).2,
        (SecretStore.claim (Trimmed.mk store) now key fresh (arriving ttl)).after.store) := by
  have ⟨portable, written, short, _⟩ := carried
  have read := Message.decode_claiming portable written short
  have accepted := acceptedTtl_arriving ttl
  generalize UInt64.ofNat (Pack.kept (ttlMillis ttl)) = millis at read accepted
  have served : store.handle now ⟨"POST", "/secrets/claim", [],
      some (Message.packed (Store.Claiming.mk key fresh (ttlMillis ttl)))⟩ =
      store.serveClaim now ⟨key, fresh, millis⟩ := by
    simp [Store.handle, Http.Request.path, path_claim, Store.withBody, read]
  simp only [Store.serveClaim, Store.withTtl, accepted] at served
  rw [Trimmed.claim_eq, Link.claim, peer_ofStore, state_ofStore]
  cases ranged : Trimmed.span? (arriving ttl) with
  | none =>
    simp only [ranged, Option.elim_none] at served ⊢
    rw [call_of_refused served (by simp [Status.badRequest, Status.ok])]
    rfl
  | some span =>
    simp only [ranged, Option.elim_some, SecretStore.claim] at served ⊢
    cases claimed : store.claim now key fresh span with
    | error error =>
      simp only [claimed, Store.failed] at served ⊢
      rw [call_of_refused served (alike_failure (α := Unit) error).1]
      rfl
    | ok result =>
      obtain ⟨live, after⟩ := result
      simp only [claimed] at served ⊢
      rw [call_of_answered served (decode_claimed carried claimed)]
      rfl

theorem mirrors_claim {key : String} {fresh : Secret} {ttl : Span}
    (carried : Carried store now (.claim key fresh ttl)) :
    Mirrors (SecretStore.claim (Link.ofStore store) now key fresh ttl)
      (SecretStore.claim (Trimmed.mk store) now key fresh (arriving ttl)) := by
  show Mirrors ((Link.ofStore store).outcome ((Link.ofStore store).claim now key fresh ttl) _ _) _
  rw [claim_ofStore carried]
  generalize SecretStore.claim (Trimmed.mk store) now key fresh (arriving ttl) = near
  obtain ⟨error | live, reports, after⟩ := near
  · exact ⟨(alike_failure error).2, rfl⟩
  · exact ⟨.ok live, rfl⟩

/-- Nobody breaks off at the reply to a call whose messages can be read. -/
theorem not_breaks_ofStore {call : StoreCall} (carried : Carried store now (.ofCall call)) :
    SecretStore.breaks (Link.ofStore store) now call = false := by
  cases call with
  | get key =>
    show aborted ((Link.ofStore store).look now [key]).1 = false
    rw [look_ofStore carried]
    rfl
  | claim key fresh ttl =>
    show aborted ((Link.ofStore store).claim now key fresh ttl).1 = false
    rw [claim_ofStore carried]
    cases (SecretStore.claim (Trimmed.mk store) now key fresh (arriving ttl)).answer <;> rfl
  | delete key => rfl

/-- An object whose size does not even cover itself is not read on. -/
example : SecretStore.breaks
    (⟨fun _ => ⟨fun _ state => (.ok ⟨.ok, .ok [0x0b, 0]⟩, state)⟩, ()⟩ : Link Unit) 0 (.get "ann") =
      true := by decide +kernel

instance : Purging (Link Store) where
  purge link now :=
    let (count, kept) := link.state.purge now
    (count, { link with state := kept })

theorem Mirrors.map {α β : Type} {far : Outcome (Link Store) α} {near : Outcome Trimmed α}
    (mirrors : Mirrors far near) (image : α → β) : Mirrors (far.map image) (near.map image) := by
  refine ⟨?_, mirrors.after⟩
  have alike := mirrors.answer
  rw [Outcome.map, Outcome.map]
  generalize far.answer = first at alike
  generalize near.answer = second at alike
  cases alike with
  | ok value => exact .ok _
  | unavailable one other => exact .unavailable one other
  | protocol one other => exact .protocol one other

/-- A use of a store, as its service learns of it. -/
def learned : Access → Access
  | .put secrets ttl => .put secrets (arriving ttl)
  | .claim key fresh ttl => .claim key fresh (arriving ttl)
  | .get keys => .get keys
  | .delete keys => .delete keys
  | .purge => .purge

/-- A use of a store goes far away as what its service learns of it goes nearby. -/
theorem mirrors_outcome {access : Access} (carried : Carried store now access) :
    Mirrors (access.outcome (Link.ofStore store) now)
      ((learned access).outcome (Trimmed.mk store) now) := by
  cases access with
  | get keys =>
    have far := get_ofStore carried
    simp only [Access.outcome, learned, far]
    exact ⟨.ok _, rfl⟩
  | put secrets ttl => exact (mirrors_put carried).map _
  | claim key fresh ttl => exact (mirrors_claim carried).map _
  | delete keys =>
    have far := delete_ofStore carried
    simp only [Access.outcome, learned, far]
    exact ⟨.ok _, rfl⟩
  | purge => exact ⟨.ok _, rfl⟩

/-- Nothing is lost of what the service learns of a time that is legible. -/
theorem outcome_learned (now : Instant) {access : Access}
    (legible : ∀ ttl, access.ttl? = some ttl → Legible ttl) (trimmed : Trimmed) :
    (learned access).outcome trimmed now = access.outcome trimmed now := by
  cases access with
  | put secrets ttl =>
    simp only [learned, Access.outcome, Trimmed.put_eq, (legible ttl rfl).span?_arriving]
  | claim key fresh ttl =>
    simp only [learned, Access.outcome, Trimmed.claim_eq, (legible ttl rfl).span?_arriving]
  | get keys => rfl
  | delete keys => rfl
  | purge => rfl

/-- Some moves, as the service learns of them. -/
def learnedAll (moves : List Move) : List Move :=
  moves.map fun
    | .use access => .use (learned access)
    | .wait span => .wait span

/-- Every message of some moves can be read. -/
def CarriedAll : Site Trimmed → List Move → Prop
  | _, [] => True
  | site, .use access :: moves => Carried site.store.store site.clock access ∧
    CarriedAll (site.step (.use (learned access))) moves
  | site, .wait span :: moves => CarriedAll (site.step (.wait span)) moves

/-- Some moves far away are answered like others nearby, and the same entries are left. -/
structure Tracks (far : Site (Link Store)) (near : Site Trimmed) (moves others : List Move) :
    Prop where
  replies : List.Forall₂ Alike (far.replies moves) (near.replies others)
  entries : (far.after moves).store = Link.ofStore (near.after others).store.store

/-- The uses of a store far away go like what its service learns of them. -/
theorem tracks_learned (clock : Instant) {store : Store} {moves : List Move}
    (carried : CarriedAll ⟨clock, ⟨store⟩⟩ moves) :
    Tracks ⟨clock, Link.ofStore store⟩ ⟨clock, ⟨store⟩⟩ moves (learnedAll moves) := by
  induction moves generalizing clock store with
  | nil => exact ⟨.nil, rfl⟩
  | cons move moves ih =>
    cases move with
    | wait span =>
      obtain ⟨replies, entries⟩ := ih (clock + span) carried
      exact ⟨replies, entries⟩
    | use access =>
      obtain ⟨answer, after⟩ := mirrors_outcome carried.1
      obtain ⟨answers, last⟩ := ih clock carried.2
      have next : (⟨clock, Link.ofStore store⟩ : Site (Link Store)).step (.use access) =
          ⟨clock, Link.ofStore ((⟨clock, ⟨store⟩⟩ : Site Trimmed).step
            (.use (learned access))).store.store⟩ := congrArg (Site.mk clock) after
      refine ⟨?_, ?_⟩
      · rw [Site.replies_use, next]
        exact .cons answer answers
      · rw [Site.after_cons, next]
        exact last

/-- Every time that some moves name is legible. -/
def LegibleAll (moves : List Move) : Prop :=
  ∀ access, .use access ∈ moves → ∀ ttl, access.ttl? = some ttl → Legible ttl

/-- If all times are legible, then it is as if the service learned all of them. -/
theorem replies_learned (site : Site Trimmed) {moves : List Move} (legible : LegibleAll moves) :
    site.replies (learnedAll moves) = site.replies moves ∧
      site.after (learnedAll moves) = site.after moves := by
  induction moves generalizing site with
  | nil => exact ⟨rfl, rfl⟩
  | cons move moves ih =>
    have others : LegibleAll moves :=
      fun access member => legible access (List.mem_cons_of_mem _ member)
    cases move with
    | wait span => exact ih (site.step (.wait span)) others
    | use access =>
      have same := outcome_learned site.clock (legible access (List.mem_cons_self ..)) site.store
      have next : site.step (.use (learned access)) = site.step (.use access) :=
        congrArg (fun outcome => { site with store := Outcome.after outcome }) same
      obtain ⟨replies, after⟩ := ih (site.step (.use access)) others
      refine ⟨?_, ?_⟩
      · show Outcome.answer ((learned access).outcome site.store site.clock) ::
          (site.step (.use (learned access))).replies (learnedAll moves) = _
        rw [same, next, replies]
        rfl
      · show (site.step (.use (learned access))).after (learnedAll moves) = _
        rw [next, after]
        rfl

theorem tracks_of_legible (clock : Instant) {store : Store} {moves : List Move}
    (carried : CarriedAll ⟨clock, ⟨store⟩⟩ moves) (legible : LegibleAll moves) :
    Tracks ⟨clock, Link.ofStore store⟩ ⟨clock, ⟨store⟩⟩ moves moves := by
  obtain ⟨replies, entries⟩ := tracks_learned clock carried
  obtain ⟨same, after⟩ := replies_learned ⟨clock, ⟨store⟩⟩ legible
  exact ⟨same ▸ replies, after ▸ entries⟩

/-- A time of 2⁵⁶ + 5 milliseconds is far too long, and yet the service claims for 5 milliseconds. -/
theorem overlong_claim :
    Settings.greatestTtl * 1000 < (Span.ofMillis 72057594037927941).toMillis ∧
    (SecretStore.claim (Link.ofStore .empty) 0 "b" ⟨[2]⟩ (Span.ofMillis 72057594037927941)).answer =
      .ok ⟨[2]⟩ ∧
    (SecretStore.claim (Link.ofStore .empty) 0 "b" ⟨[2]⟩
      (Span.ofMillis 72057594037927941)).after.state.entries.entries =
        [("b", ⟨⟨[2]⟩, Span.ofMillis 5⟩)] := by
  have named : PortableNames ["b"] := portableNames_of_length_le (by decide)
  have keepable : (Secret.mk [2]).Keepable := Secret.keepable_of_length_le (by decide)
  have written : Written (Span.ofMillis 72057594037927941) := fun none => by cases none
  have carried : Carried .empty 0 (.claim "b" ⟨[2]⟩ (Span.ofMillis 72057594037927941)) :=
    ⟨keepable.1, written, Message.short_claiming named keepable written,
      fun _ live => by cases live⟩
  have arrives : Trimmed.span? (arriving (Span.ofMillis 72057594037927941)) =
      some (Span.ofMillis 5) := by
    have five : Pack.kept (ttlMillis (Span.ofMillis 72057594037927941)) = 5 := rfl
    rw [arriving, five, Trimmed.span?, toMillis_ofMillis, if_pos (by decide)]
  obtain ⟨answer, after⟩ := mirrors_claim carried
  rw [Trimmed.claim_eq, arrives] at answer after
  exact ⟨by decide, answer.eq_ok, by rw [after]; rfl⟩

end Remote
end Signet
