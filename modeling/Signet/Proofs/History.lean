import Signet.Authority
import Signet.Proofs.Operation.Path
import Signet.Proofs.Store.Effect

/-! Histories of calls that are made side by side. Each call is an operation of its own; what it
asks is answered at some place of one common history, in which calls reach the store one at a time,
anybody else may use the store, and time passes. -/

namespace Signet

/-- What calls are made on: a store and its clock. -/
structure World where
  clock : Instant
  store : Store

/-- What the store answers to a call that reaches it. -/
def World.answer (world : World) (call : StoreCall) : Except AuthError call.Answer :=
  match (SecretStore.answer world.store world.clock call).answer with
  | .ok answer => .ok answer
  | .error error => .error (.store error)

/-- The world after a use of its store. -/
def World.use (world : World) (access : Access) : World :=
  { world with store := access.after world.clock world.store }

/-- What happens in a history. -/
inductive Event where
  /-- A caller's query is answered, and the store has no part in it. -/
  | aside (caller : Nat) (exchange : Exchange)
  /-- A caller's call reaches the store; this is how the wait for it ends. -/
  | reached (caller : Nat) (call : StoreCall) (within : Span)
    (answer : Except AuthError call.Answer)
  /-- The store is used, but not by a caller. -/
  | direct (access : Access)
  /-- Time passes on the clock of the store. -/
  | passed (span : Span)

namespace Event

/-- The use of the store in an event. -/
def access? : Event → Option Access
  | reached _ call _ _ => some (.ofCall call)
  | direct access => some access
  | aside .. | passed _ => none

/-- What a caller learns in an event. -/
def exchange? (caller : Nat) : Event → Option Exchange
  | aside other exchange => if other = caller then some exchange else none
  | reached other call within answer =>
    if other = caller then some ⟨.store call within, answer⟩ else none
  | direct _ | passed _ => none

/-- The world after an event. -/
def step (world : World) : Event → World
  | aside .. => world
  | reached _ call _ _ => world.use (.ofCall call)
  | direct access => world.use access
  | passed span => { world with clock := world.clock + span }

/-- Whether an event can happen. Secrets are drawn at the length that is asked for. A call that has
reached the store is answered by the store, unless the wait for it has ended before. -/
def Fits (world : World) : Event → Prop
  | aside _ ⟨.fresh length, .ok secret⟩ => secret.length = length
  | reached _ call _ answer =>
    answer = world.answer call ∨ answer = .error .timeout ∨ answer = .error .cancelled
  | aside .. | direct _ | passed _ => True

theorem Fits.answered {world : World} {caller : Nat} {call : StoreCall} {within : Span}
    {value : call.Answer} (fits : (reached caller call within (.ok value)).Fits world) :
    world.answer call = .ok value := by
  rcases fits with answered | lost | lost
  · exact answered.symm
  · cases lost
  · cases lost

/-- Nothing but the store answers a call to the store. -/
def Honest : Event → Prop
  | aside _ ⟨.store _ _, .ok _⟩ => False
  | aside .. | reached .. | direct _ | passed _ => True

/-- It neither writes under a key whatever is there nor drops it. -/
def Spares (key : String) (event : Event) : Prop :=
  ∀ access, event.access? = some access → access.Spares key

/-- It may leave this secret under a key. -/
def Offers (key : String) (secret : Secret) (event : Event) : Prop :=
  ∃ access, event.access? = some access ∧ access.Offers key secret

theorem step_eq_use {world : World} {event : Event} {access : Access}
    (used : event.access? = some access) : event.step world = world.use access := by
  cases event with
  | aside caller exchange => cases used
  | reached caller call within answer => cases used; rfl
  | direct access => cases used; rfl
  | passed span => cases used

theorem step_eq_of_unused {world : World} {event : Event} (unused : event.access? = none) :
    (event.step world).store = world.store ∧ world.clock ≤ (event.step world).clock := by
  cases event with
  | aside caller exchange => exact ⟨rfl, Nat.le_refl _⟩
  | reached caller call within answer => cases unused
  | direct access => cases unused
  | passed span => exact ⟨rfl, Nat.le_add_right ..⟩

theorem clock_le_step (world : World) (event : Event) :
    world.clock ≤ (event.step world).clock := by
  cases used : event.access? with
  | none => exact (step_eq_of_unused used).2
  | some access =>
    rw [step_eq_use used]
    exact Nat.le_refl _

end Event

/-- What callers have learned, each in the order of the history. -/
def exchangesOf (caller : Nat) (history : List Event) : List Exchange :=
  history.filterMap (Event.exchange? caller)

theorem exchangesOf_append (caller : Nat) (front back : List Event) :
    exchangesOf caller (front ++ back) = exchangesOf caller front ++ exchangesOf caller back :=
  List.filterMap_append

/-- What a caller has learned was answered in the history, with the store or without it. -/
theorem mem_exchangesOf_iff {caller : Nat} {exchange : Exchange} {history : List Event} :
    exchange ∈ exchangesOf caller history ↔ .aside caller exchange ∈ history ∨
      ∃ call within answer, exchange = ⟨.store call within, answer⟩ ∧
        .reached caller call within answer ∈ history := by
  rw [exchangesOf, List.mem_filterMap]
  constructor
  · rintro ⟨event, member, learned⟩
    cases event with
    | aside other exchange =>
      rw [Event.exchange?] at learned
      split at learned
      case isTrue same =>
        cases learned
        exact .inl (same ▸ member)
      case isFalse => cases learned
    | reached other call within answer =>
      rw [Event.exchange?] at learned
      split at learned
      case isTrue same =>
        cases learned
        exact .inr ⟨call, within, answer, rfl, same ▸ member⟩
      case isFalse => cases learned
    | direct access => cases learned
    | passed span => cases learned
  · rintro (member | ⟨call, within, answer, rfl, member⟩)
    · exact ⟨_, member, by simp [Event.exchange?]⟩
    · exact ⟨_, member, by simp [Event.exchange?]⟩

theorem mem_exchangesOf_fresh {caller length : Nat} {answer : Except String Secret}
    {history : List Event} (drawn : ⟨.fresh length, answer⟩ ∈ exchangesOf caller history) :
    .aside caller ⟨.fresh length, answer⟩ ∈ history := by
  rcases mem_exchangesOf_iff.mp drawn with member | ⟨call, within, answer, same, member⟩
  · exact member
  · cases same

/-- A caller hears how the wait for its call ends. -/
theorem mem_exchangesOf_of_mem {caller : Nat} {call : StoreCall} {within : Span}
    {answer : Except AuthError call.Answer} {history : List Event}
    (member : .reached caller call within answer ∈ history) :
    ⟨.store call within, answer⟩ ∈ exchangesOf caller history :=
  mem_exchangesOf_iff.mpr (.inr ⟨call, within, answer, rfl, member⟩)

theorem exchangesOf_reached {caller : Nat} {call : StoreCall} {within : Span}
    {answer : Except AuthError call.Answer} (front back : List Event) :
    exchangesOf caller (front ++ .reached caller call within answer :: back) =
      exchangesOf caller front ++ ⟨.store call within, answer⟩ :: exchangesOf caller back := by
  rw [exchangesOf_append]
  simp [exchangesOf, Event.exchange?]

theorem mem_exchangesOf_reached {caller : Nat} {call : StoreCall} {within : Span}
    {answer : Except AuthError call.Answer} {earlier later history : List Event}
    (made : history = earlier ++ .reached caller call within answer :: later) :
    ⟨.store call within, answer⟩ ∈ exchangesOf caller history := by
  rw [made]
  exact mem_exchangesOf_of_mem (List.mem_append_right _ (List.mem_cons_self ..))

/-- Where nothing but the store answers, what a caller was answered to a call was answered by it. -/
theorem reached_of_answered {caller : Nat} {call : StoreCall} {within : Span} {value : call.Answer}
    {history : List Event} (honest : ∀ event ∈ history, event.Honest)
    (learned : ⟨.store call within, .ok value⟩ ∈ exchangesOf caller history) :
    ∃ front back, history = front ++ .reached caller call within (.ok value) :: back := by
  rcases mem_exchangesOf_iff.mp learned with alone | ⟨call, within, answer, same, member⟩
  · exact absurd (honest _ alone) id
  · cases same
    exact List.append_of_mem member

namespace World

/-- The world after a history. -/
def after (start : World) (history : List Event) : World :=
  history.foldl Event.step start

/-- Each event of a history can happen in its place. -/
def Admits : World → List Event → Prop
  | _, [] => True
  | world, event :: history => event.Fits world ∧ (event.step world).Admits history

variable {start : World} {key : String} {secret : Secret} {entry : Entry} {deadline : Instant}

theorem after_append (start : World) (front back : List Event) :
    start.after (front ++ back) = (start.after front).after back :=
  List.foldl_append

theorem after_cons (start : World) (event : Event) (history : List Event) :
    start.after (event :: history) = (event.step start).after history := rfl

theorem admits_append_iff {front back : List Event} : start.Admits (front ++ back) ↔
    start.Admits front ∧ (start.after front).Admits back := by
  induction front generalizing start with
  | nil => simp [Admits, after]
  | cons event front ih =>
    rw [List.cons_append, Admits, Admits, ih, and_assoc]
    rfl

/-- A drawn secret has the length that was asked for. -/
theorem Admits.length_drawn {history : List Event} {caller length : Nat}
    (admits : start.Admits history)
    (drawn : ⟨.fresh length, .ok secret⟩ ∈ exchangesOf caller history) :
    secret.length = length := by
  obtain ⟨front, back, rfl⟩ := List.append_of_mem (mem_exchangesOf_fresh drawn)
  obtain ⟨fits, -⟩ := (admits_append_iff.mp admits).2
  exact fits

/-- A secret under a key was there at the start or has been offered since. -/
theorem origin {history : List Event}
    (found : (start.after history).store.entries.find? key = some entry) :
    (∃ old, start.store.entries.find? key = some old ∧ old.secret = entry.secret) ∨
      ∃ event ∈ history, event.Offers key entry.secret := by
  -- If the events behind the first one did not offer it, it was there after the first one.
  induction history generalizing start with
  | nil => exact .inl ⟨entry, found, rfl⟩
  | cons event history ih =>
    rcases ih found with ⟨old, held, same⟩ | ⟨later, member, offers⟩
    · cases used : event.access? with
      | none =>
        rw [(Event.step_eq_of_unused used).1] at held
        exact .inl ⟨old, held, same⟩
      | some access =>
        rw [Event.step_eq_use used] at held
        rcases Access.origin held with ⟨older, before, equal⟩ | offered
        · exact .inl ⟨older, before, equal.trans same⟩
        · rw [same] at offered
          exact .inr ⟨event, List.mem_cons_self .., access, used, offered⟩
    · exact .inr ⟨later, List.mem_cons_of_mem _ member, offers⟩

/-- Until the deadline, the secret stays under its key. -/
def Keeps (world : World) (key : String) (secret : Secret) (deadline : Instant) : Prop :=
  world.clock < deadline → ∃ entry, world.store.entries.find? key = some entry ∧
    entry.secret = secret ∧ deadline ≤ entry.deadline

theorem Keeps.live (keeps : start.Keeps key secret deadline) (full : secret.isEmpty = false)
    (early : start.clock < deadline) : ∃ entry, start.store.live? start.clock key = some entry ∧
      entry.secret = secret ∧ deadline ≤ entry.deadline := by
  obtain ⟨entry, found, rfl, long⟩ := keeps early
  exact ⟨entry, Store.live?_eq_some_iff.mpr ⟨found, Nat.lt_of_lt_of_le early long, full⟩, rfl, long⟩

theorem Keeps.step {event : Event} (keeps : start.Keeps key secret deadline)
    (full : secret.isEmpty = false) (spares : event.Spares key) :
    (event.step start).Keeps key secret deadline := by
  intro early
  have early : start.clock < deadline := Nat.lt_of_le_of_lt (event.clock_le_step start) early
  obtain ⟨entry, live, same, long⟩ := keeps.live full early
  cases used : event.access? with
  | none =>
    rw [(Event.step_eq_of_unused used).1]
    exact ⟨entry, (Store.live?_eq_some_iff.mp live).1, same, long⟩
  | some access =>
    obtain ⟨kept, found, equal, longer⟩ := Access.keeps (spares access used) live
    rw [Event.step_eq_use used]
    exact ⟨kept, found, equal.trans same, Nat.le_trans long longer⟩

/-- A history that spares the key keeps the secret. -/
theorem Keeps.after {history : List Event} (keeps : start.Keeps key secret deadline)
    (full : secret.isEmpty = false) (spares : ∀ event ∈ history, event.Spares key) :
    (start.after history).Keeps key secret deadline := by
  induction history generalizing start with
  | nil => exact keeps
  | cons event history ih =>
    exact ih (keeps.step full (spares event (List.mem_cons_self ..)))
      fun later member => spares later (List.mem_cons_of_mem _ member)

/-- The visible secret under a key. -/
def held (world : World) (key : String) : Option Secret :=
  (world.store.live? world.clock key).map Entry.secret

theorem held_full (held : start.held key = some secret) : secret.isEmpty = false := by
  obtain ⟨entry, live, rfl⟩ := Option.map_eq_some_iff.mp held
  exact (Store.live?_eq_some_iff.mp live).2.2

theorem answer_get (world : World) (key : String) :
    world.answer (.get key) = .ok (world.held key) := by
  have found := Store.find?_get world.store world.clock key
  show Except.ok ((world.store.get world.clock [key]).find? key) = _
  rw [found]
  rfl

/-- A caller that was answered a secret, or none, was answered what was visible there. -/
theorem held_of_answered {front back : List Event} {caller : Nat} {within : Span}
    {found : Option Secret}
    (admits : start.Admits (front ++ .reached caller (.get key) within (.ok found) :: back)) :
    (start.after front).held key = found := by
  obtain ⟨-, fits, -⟩ := admits_append_iff.mp admits
  have answered := fits.answered
  rw [answer_get] at answered
  exact Except.ok.inj answered

/-- A claim is out of range and does nothing, or the visible secret is answered, and else the one
that is offered; it stays at least for the time of the claim. -/
theorem claim_cases (world : World) (key : String) (fresh : Secret) (ttl : Span) :
    (∃ error, Store.deadline world.clock ttl = .error error ∧
      world.answer (.claim key fresh ttl) = .error (.store error)) ∨
    (Store.deadline world.clock ttl = .ok (world.clock + ttl) ∧
      world.answer (.claim key fresh ttl) = .ok ((world.held key).getD fresh) ∧
      (world.use (.claim key fresh ttl)).Keeps key ((world.held key).getD fresh)
        (world.clock + ttl)) := by
  have refused : ∀ error, world.store.claim world.clock key fresh ttl = .error error →
      world.answer (.claim key fresh ttl) = .error (.store error) := by
    intro error failed
    simp [answer, SecretStore.answer, SecretStore.claim, failed]
  have answered : ∀ live after, world.store.claim world.clock key fresh ttl = .ok (live, after) →
      world.answer (.claim key fresh ttl) = .ok live := by
    intro live after claimed
    simp [answer, SecretStore.answer, SecretStore.claim, claimed]
  rw [Keeps, use]
  rcases world.store.claim_cases world.clock key fresh ttl with ⟨error, ranged, failed⟩ |
    ⟨renewed, ranged, claimed⟩
  · exact .inl ⟨error, ranged, refused error failed⟩
  · obtain rfl := (Store.deadline_eq_ok_iff.mp ranged).2
    rcases claimed with ⟨entry, live, claimed⟩ | ⟨none, claimed⟩
    · have held : world.held key = some entry.secret := by rw [World.held, live]; rfl
      rw [Access.after_claim_of_ok claimed, held]
      exact .inr ⟨ranged, answered _ _ claimed, fun _ =>
        ⟨_, Dict.find?_insert_self .., rfl, Nat.le_max_right ..⟩⟩
    · have held : world.held key = Option.none := by rw [World.held, none]; rfl
      rw [Access.after_claim_of_ok claimed, held]
      exact .inr ⟨ranged, answered _ _ claimed, fun _ =>
        ⟨_, Dict.find?_insert_self .., rfl, Nat.le_refl _⟩⟩

/-- What a claim is answered is not empty and stays at least for the time of the claim. -/
theorem keeps_claimed {fresh : Secret} {ttl : Span} (full : fresh.isEmpty = false)
    (answered : start.answer (.claim key fresh ttl) = .ok secret) : secret.isEmpty = false ∧
      (start.use (.claim key fresh ttl)).Keeps key secret (start.clock + ttl) := by
  rcases start.claim_cases key fresh ttl with ⟨error, -, failed⟩ | ⟨-, claimed, keeps⟩
  · rw [failed] at answered
    cases answered
  · rw [claimed] at answered
    cases answered
    refine ⟨?_, keeps⟩
    cases held : start.held key with
    | none => exact full
    | some secret => exact held_full held

/-- What is visible stays for some time. -/
theorem keeps_of_held (held : start.held key = some secret) :
    ∃ deadline, start.clock < deadline ∧ start.Keeps key secret deadline := by
  obtain ⟨entry, live, rfl⟩ := Option.map_eq_some_iff.mp held
  obtain ⟨found, early, -⟩ := Store.live?_eq_some_iff.mp live
  exact ⟨entry.deadline, early, fun _ => ⟨entry, found, rfl, Nat.le_refl _⟩⟩

/-- Where only time has passed, nothing else is visible than before. -/
theorem held_later {clock : Instant} (held : start.held key = some secret)
    (visible : World.held ⟨clock, start.store⟩ key ≠ none) :
    World.held ⟨clock, start.store⟩ key = some secret := by
  obtain ⟨entry, live, rfl⟩ := Option.map_eq_some_iff.mp held
  obtain ⟨other, shown⟩ := Option.ne_none_iff_exists'.mp visible
  obtain ⟨later, again, rfl⟩ := Option.map_eq_some_iff.mp shown
  have same := (Store.live?_eq_some_iff.mp live).1.symm.trans (Store.live?_eq_some_iff.mp again).1
  rw [shown, Option.some.inj same]

/-- What is visible was visible before, where only time has passed. -/
theorem held_earlier {clock later : Instant} {store : Store} (order : clock ≤ later)
    (held : World.held ⟨later, store⟩ key = some secret) :
    World.held ⟨clock, store⟩ key = some secret := by
  obtain ⟨entry, live, rfl⟩ := Option.map_eq_some_iff.mp held
  obtain ⟨found, early, full⟩ := Store.live?_eq_some_iff.mp live
  have before : store.live? clock key = some entry :=
    Store.live?_eq_some_iff.mpr ⟨found, Nat.lt_of_le_of_lt order early, full⟩
  exact Option.map_eq_some_iff.mpr ⟨entry, before, rfl⟩

/-- What is visible after a use was visible before or has been offered. -/
theorem held_use {access : Access} (held : (start.use access).held key = some secret) :
    start.held key = some secret ∨ access.Offers key secret := by
  obtain ⟨entry, live, rfl⟩ := Option.map_eq_some_iff.mp held
  rcases Access.live_origin live with ⟨old, before, same⟩ | offered
  · exact .inl (Option.map_eq_some_iff.mpr ⟨old, before, same⟩)
  · exact .inr offered

theorem Keeps.held (keeps : start.Keeps key secret deadline) (full : secret.isEmpty = false)
    (early : start.clock < deadline) : start.held key = some secret := by
  obtain ⟨entry, live, same, -⟩ := keeps.live full early
  rw [World.held, live, ← same]
  rfl

end World

/-- What an authority is asked for. -/
inductive Authority.Request where
  | issue (subject : String) (permissions : Permission)
  | verify (token : String) (required : Permission)
  | revoke (token : String)
  | revokeSubject (subject : String)

/-- What it is answered with: a token, whether it is allowed, nothing. -/
abbrev Authority.Request.Answer : Authority.Request → Type
  | issue .. => String
  | verify .. => Bool
  | revoke _ | revokeSubject _ => Unit

/-- Does what is asked for. -/
def Authority.perform (authority : Authority) : (request : Request) → Attempt request.Answer
  | .issue subject permissions => authority.issue subject permissions
  | .verify token required => authority.verify token required
  | .revoke token => authority.revoke token
  | .revokeSubject subject => authority.revokeSubject subject

/-- A request and the authority that is asked. -/
structure Call where
  authority : Authority
  request : Authority.Request

/-- Calls that are made side by side, one by each caller: each of them has come some way along its
operation, as far as it has learned answers in the history. -/
structure Run (start : World) (calls : Nat → Call) (history : List Event) : Prop where
  admits : start.Admits history
  follows : ∀ caller, ∃ rest, ((calls caller).authority.perform (calls caller).request).run.Follows
    (exchangesOf caller history) rest

end Signet
