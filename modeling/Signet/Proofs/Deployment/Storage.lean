import Signet.Proofs.Deployment.Run

/-! What becomes of the store while an operation runs, whatever trouble its calls meet. A call either
reaches the store, and then answers what the store answers, or leaves it alone. -/

namespace Signet

/-- Queries that may change what a store holds. -/
def Query.Writes : Query → Prop
  | store (.claim ..) _ | store (.delete _) _ => True
  | fresh _ | time | store (.get _) _ | verification _ | report _ => False

/-- The use of the store that a query asks for. -/
def Query.access? : Query → Option Access
  | store call _ => some (.ofCall call)
  | fresh _ | time | verification _ | report _ => none

theorem Query.uses_or_not (query : Query) :
    (∃ call within, query = .store call within) ∨ query.access? = none := by
  cases query with
  | store call within => exact .inl ⟨call, within, rfl⟩
  | fresh length => exact .inr rfl
  | time => exact .inr rfl
  | verification credential => exact .inr rfl
  | report event => exact .inr rfl

/-- Queries that have nothing to do with credentials. -/
def Query.Apart : Query → Prop
  | verification _ => False
  | fresh _ | time | store .. | report _ => True

/-- A store call that has been answered with a value. -/
def Exchange.Succeeds : Exchange → Prop
  | ⟨.store _ _, .ok _⟩ => True
  | _ => False

namespace World

variable {world : World} {call : StoreCall}

/-- A call that the store refuses changes nothing. -/
theorem use_of_error {error : AuthError} (refused : world.answer call = .error error) :
    world.use (.ofCall call) = world := by
  cases call with
  | get key => rfl
  | claim key fresh ttl =>
    rcases world.claim_cases key fresh ttl with ⟨failure, ranged, -⟩ | ⟨-, answered, -⟩
    · exact congrArg (World.mk _) (Access.after_claim_of_deadline_error ranged)
    · rw [answered] at refused
      cases refused
  | delete key => cases refused

theorem use_of_silent {within : Span} (silent : ¬ (Query.store call within).Writes) :
    world.use (.ofCall call) = world := by
  cases call with
  | get key => rfl
  | claim key fresh ttl => exact absurd trivial silent
  | delete key => exact absurd trivial silent

end World

theorem Event.of_exchange? {caller : Nat} {event : Event} {call : StoreCall} {within : Span}
    {answer : Except AuthError call.Answer}
    (learned : event.exchange? caller = some ⟨.store call within, answer⟩) :
    event = .aside caller ⟨.store call within, answer⟩ ∨
      event = .reached caller call within answer := by
  cases event with
  | aside other exchange =>
    rw [exchange?] at learned
    split at learned
    case isTrue same =>
      cases learned
      exact .inl (by rw [same])
    case isFalse => cases learned
  | reached other call within answer =>
    rw [exchange?] at learned
    split at learned
    case isTrue same =>
      cases learned
      exact .inr (by rw [same])
    case isFalse => cases learned
  | direct access => cases learned
  | passed span => cases learned

namespace World

variable {start : World} {caller : Nat} {history : List Event}

theorem clock_le_after (start : World) (history : List Event) :
    start.clock ≤ (start.after history).clock := by
  induction history generalizing start with
  | nil => exact Nat.le_refl _
  | cons event history ih => exact Nat.le_trans (event.clock_le_step start) (ih _)

/-- Whoever writes nothing leaves the store alone. -/
theorem store_after_of_silent (own : ∀ event ∈ history, event.Own caller)
    (silent : ∀ exchange ∈ exchangesOf caller history, ¬ exchange.query.Writes) :
    (start.after history).store = start.store := by
  induction history generalizing start with
  | nil => rfl
  | cons event history ih =>
    have first := own event (List.mem_cons_self ..)
    have still : (event.step start).store = start.store := by
      cases event with
      | aside other exchange => rfl
      | reached other call within answer =>
        obtain rfl : other = caller := first
        have quiet : ¬ (Query.store call within).Writes :=
          silent ⟨.store call within, answer⟩ (by simp [exchangesOf, Event.exchange?])
        exact congrArg World.store (World.use_of_silent quiet)
      | direct access => exact first.elim
      | passed span => rfl
    rw [after_cons, ih, still]
    · exact fun later member => own later (List.mem_cons_of_mem _ member)
    · intro exchange member
      apply silent exchange
      rw [show event :: history = [event] ++ history from rfl, exchangesOf_append]
      exact List.mem_append_right _ member

/-- Whoever writes once leaves the store alone, or as its one call has left it. -/
theorem store_after_of_wrote {front back : List Exchange} {call : StoreCall} {within : Span}
    {answer : Except AuthError call.Answer} (admits : start.Admits history)
    (own : ∀ event ∈ history, event.Own caller)
    (learned : exchangesOf caller history = front ++ ⟨.store call within, answer⟩ :: back)
    (before : ∀ exchange ∈ front, ¬ exchange.query.Writes)
    (behind : ∀ exchange ∈ back, ¬ exchange.query.Writes) :
    (start.after history).store = start.store ∨ ∃ moment, start.clock ≤ moment ∧
      moment ≤ (start.after history).clock ∧
      (start.after history).store = (World.use ⟨moment, start.store⟩ (.ofCall call)).store ∧
      (answer = World.answer ⟨moment, start.store⟩ call ∨ answer = .error .timeout ∨
        answer = .error .cancelled) := by
  obtain ⟨early, rest, rfl, first, others⟩ := List.filterMap_eq_append_iff.mp learned
  obtain ⟨between, event, late, rfl, none, told, last⟩ := List.filterMap_eq_cons_iff.mp others
  have prior : exchangesOf caller (early ++ between) = front := by
    have nothing : exchangesOf caller between = [] := List.filterMap_eq_nil_iff.mpr none
    rw [exchangesOf_append, nothing, List.append_nil]
    exact first
  rw [← List.append_assoc] at admits own ⊢
  have ready : (start.after (early ++ between)).store = start.store := by
    apply store_after_of_silent
    · exact fun event member => own event (List.mem_append_left _ member)
    · exact fun exchange member => before exchange (prior ▸ member)
  have done : (start.after (early ++ between ++ event :: late)).store =
      (event.step (start.after (early ++ between))).store := by
    rw [after_append, after_cons]
    apply store_after_of_silent
    · exact fun event member => own event
        (List.mem_append_right _ (List.mem_cons_of_mem _ member))
    · exact fun exchange member => behind exchange (last ▸ member)
  rcases Event.of_exchange? told with rfl | rfl
  · exact .inl (done.trans ready)
  · obtain ⟨-, fits, -⟩ := admits_append_iff.mp admits
    have same : start.after (early ++ between) =
        ⟨(start.after (early ++ between)).clock, start.store⟩ := by rw [← ready]
    refine .inr ⟨(start.after (early ++ between)).clock, clock_le_after .., ?_, ?_, ?_⟩
    · rw [after_append start (early ++ between)]
      exact clock_le_after ..
    · rw [← same]
      exact done
    · rw [← same]
      exact fits

end World

namespace Deployment

variable {facilities : Facilities Store} {deployment : Deployment Store}

theorem finish_cases {σ : Type} [SecretStore σ] (deployment : Deployment σ) (call : StoreCall)
    (ending : Ending) : (deployment.finish call ending).2 = deployment ∨
      deployment.finish call ending = deployment.reach call := by
  unfold finish
  split
  case h_4 secret =>
    split
    · exact .inl rfl
    · exact .inr rfl
  case h_5 => exact .inr rfl
  all_goals exact .inl rfl

/-- When the wait for a call is over, the call has reached the store just then, or it never will. -/
theorem call_cases (facilities : Facilities Store) (deployment : Deployment Store)
    (call : StoreCall) (within : Span) : ∃ moment, deployment.clock ≤ moment ∧
      ((deployment.call facilities call within).2.world = ⟨moment, deployment.store⟩ ∨
        (deployment.call facilities call within).2.world =
            World.use ⟨moment, deployment.store⟩ (.ofCall call) ∧
          (deployment.call facilities call within).1 =
            World.answer ⟨moment, deployment.store⟩ call) := by
  obtain ⟨order, -⟩ := awaited_spec facilities.cancellation deployment.clock within
    (deployment.troubles.next call)
  have kept : (deployment.start facilities call within).2.store = deployment.store := by
    unfold start
    split <;> rfl
  have timed : (deployment.start facilities call within).1 = awaited facilities.cancellation
      deployment.clock within (deployment.troubles.next call) := by
    unfold start
    split <;> rfl
  rw [← timed] at order
  refine ⟨_, order, ?_⟩
  unfold Deployment.call
  generalize deployment.start facilities call within = started at kept
  obtain ⟨pending, middle⟩ := started
  rw [← kept]
  rcases finish_cases { middle with clock := pending.moment } call pending.ending with
    alone | reached
  · exact .inl (congrArg world alone)
  · refine .inr ⟨?_, congrArg Prod.fst reached⟩
    refine (congrArg (world ∘ Prod.snd) reached).trans ?_
    exact congrArg (World.mk _) (Access.after_ofCall ..).symm

/-- A call that does not succeed leaves the store alone. -/
theorem store_call_of_error {call : StoreCall} {within : Span} {error : AuthError}
    (failed : (deployment.call facilities call within).1 = .error error) :
    (deployment.call facilities call within).2.store = deployment.store := by
  obtain ⟨moment, -, alone | ⟨reached, answered⟩⟩ := call_cases facilities deployment call within
  · exact congrArg World.store alone
  · rw [answered] at failed
    rw [World.use_of_error failed] at reached
    exact congrArg World.store reached

theorem store_call_of_silent {call : StoreCall} {within : Span}
    (silent : ¬ (Query.store call within).Writes) :
    (deployment.call facilities call within).2.store = deployment.store := by
  obtain ⟨moment, -, alone | ⟨reached, -⟩⟩ := call_cases facilities deployment call within
  · exact congrArg World.store alone
  · rw [World.use_of_silent silent] at reached
    exact congrArg World.store reached

/-- Where the store is not used, no time passes and no trouble comes up. -/
theorem answer_of_unused {σ : Type} [SecretStore σ] {facilities : Facilities σ}
    {deployment : Deployment σ} {query : Query} (unused : query.access? = none) :
    (answer facilities query deployment).2.wall = deployment.wall ∧
      (answer facilities query deployment).2.clock = deployment.clock ∧
      (answer facilities query deployment).2.troubles = deployment.troubles := by
  cases query with
  | fresh length =>
    have made : answer facilities (.fresh length) deployment =
        deployment.fresh facilities length := rfl
    rw [made, fresh]
    split
    · exact ⟨rfl, rfl, rfl⟩
    · exact ⟨rfl, rfl, rfl⟩
  | time => exact ⟨rfl, rfl, rfl⟩
  | store call within => cases unused
  | verification credential => exact ⟨rfl, rfl, rfl⟩
  | report event => exact ⟨rfl, rfl, rfl⟩

/-- The clock of the wall stands still while a query is answered. -/
theorem wall_answer {σ : Type} [SecretStore σ] {facilities : Facilities σ}
    {deployment : Deployment σ} (query : Query) :
    (answer facilities query deployment).2.wall = deployment.wall := by
  rcases query.uses_or_not with ⟨call, within, rfl⟩ | unused
  · have started : (deployment.start facilities call within).2.wall = deployment.wall := by
      unfold start
      split <;> rfl
    show (deployment.call facilities call within).2.wall = deployment.wall
    unfold Deployment.call
    generalize deployment.start facilities call within = made at started
    obtain ⟨pending, middle⟩ := made
    rcases finish_cases { middle with clock := pending.moment } call pending.ending with
      alone | reached
    · exact (congrArg Deployment.wall alone).trans started
    · exact (congrArg (Deployment.wall ∘ Prod.snd) reached).trans started
  · exact (answer_of_unused unused).1

/-- Whatever answers this query does not touch the store behind the back of its calls. -/
def Facilities.Leaves (facilities : Facilities Store) : Query → Prop
  | .verification credential => ∀ store, (facilities.verify store credential).2 = store
  | .fresh _ | .time | .store .. | .report _ => True

theorem leaves_of_apart {query : Query} (apart : query.Apart) :
    facilities.Leaves query := by
  cases query with
  | verification credential => exact apart.elim
  | fresh length => trivial
  | time => trivial
  | store call within => trivial
  | report event => trivial

theorem store_answer_of_unused {query : Query} (leaves : facilities.Leaves query)
    (unused : query.access? = none) :
    (answer facilities query deployment).2.store = deployment.store := by
  cases query with
  | fresh length =>
    show (fresh facilities deployment length).2.store = deployment.store
    unfold fresh
    split
    · rfl
    · rfl
  | time => rfl
  | store call within => cases unused
  | verification credential => exact leaves deployment.store
  | report event => rfl

theorem store_answer {query : Query} (apart : query.Apart)
    (failed : query.Writes → ¬ Exchange.Succeeds ⟨query, (answer facilities query deployment).1⟩) :
    (answer facilities query deployment).2.store = deployment.store := by
  rcases query.uses_or_not with ⟨call, within, rfl⟩ | unused
  · by_cases writes : (Query.store call within).Writes
    · have failed := failed writes
      show (deployment.call facilities call within).2.store = deployment.store
      cases answered : (deployment.call facilities call within).1 with
      | error error => exact store_call_of_error answered
      | ok value =>
        rw [show answer facilities (.store call within) deployment =
          deployment.call facilities call within from rfl, answered] at failed
        exact absurd trivial failed
    · exact store_call_of_silent writes
  · exact store_answer_of_unused (leaves_of_apart apart) unused

/-- An operation whose writes have all failed leaves the store alone. -/
theorem store_run {α : Type} {operation : Operation α} (apart : operation.Only Query.Apart)
    (failed : ∀ exchange ∈ operation.path (answer facilities) deployment,
      exchange.query.Writes → ¬ exchange.Succeeds) :
    (deployment.run facilities operation).2.store = deployment.store := by
  induction operation generalizing deployment with
  | done value => rfl
  | ask query next ih =>
    have others := ih (answer facilities query deployment).1 (apart.2 _)
      fun exchange member => failed exchange (List.mem_cons_of_mem _ member)
    exact others.trans (store_answer apart.1 (failed _ (List.mem_cons_self ..)))

/-- What an attempt has come to ends the path that it has taken. -/
theorem yields_of_attempt {α : Type} {operation : Attempt α} {result : Except AuthError α}
    {after : Deployment Store} (ended : deployment.attempt facilities operation = (result, after)) :
    operation.run.Yields (operation.run.path (answer facilities) deployment) result := by
  have yields := operation.run.yields_path (answer facilities) deployment
  have same : (operation.run.run (answer facilities) deployment).1 = result :=
    congrArg Prod.fst ended
  rwa [same] at yields

/-- While a secret is spared, it stays. -/
theorem keeps_answer {key : String} {secret : Secret} {deadline : Instant} {query : Query}
    (leaves : facilities.Leaves query) (full : secret.isEmpty = false)
    (spares : ∀ access, query.access? = some access → access.Spares key)
    (keeps : deployment.world.Keeps key secret deadline) :
    (answer facilities query deployment).2.world.Keeps key secret deadline := by
  rcases query.uses_or_not with ⟨call, within, rfl⟩ | unused
  · obtain ⟨moment, order, ended⟩ := call_cases facilities deployment call within
    have waited : World.Keeps ⟨moment, deployment.store⟩ key secret deadline :=
      fun early => keeps (Nat.lt_of_le_of_lt order early)
    show (deployment.call facilities call within).2.world.Keeps key secret deadline
    rcases ended with alone | ⟨reached, -⟩
    · rw [alone]
      exact waited
    · rw [reached]
      have spared : (Event.direct (.ofCall call)).Spares key := by
        intro access used
        exact spares access used
      exact waited.step full spared
  · have clock : (answer facilities query deployment).2.clock = deployment.clock :=
      (answer_of_unused unused).2.1
    rw [Deployment.world, clock, store_answer_of_unused leaves unused]
    exact keeps

/-- An operation that spares a secret keeps it. -/
theorem keeps_run {α : Type} {key : String} {secret : Secret} {deadline : Instant}
    {operation : Operation α} (leaves : operation.Only facilities.Leaves)
    (full : secret.isEmpty = false)
    (spares : ∀ exchange ∈ operation.path (answer facilities) deployment,
      ∀ access, exchange.query.access? = some access → access.Spares key)
    (keeps : deployment.world.Keeps key secret deadline) :
    (deployment.run facilities operation).2.world.Keeps key secret deadline := by
  induction operation generalizing deployment with
  | done value => exact keeps
  | ask query next ih =>
    apply ih _ (leaves.2 _)
    · exact fun exchange member => spares exchange (List.mem_cons_of_mem _ member)
    · exact keeps_answer leaves.1 full (spares _ (List.mem_cons_self ..)) keeps

/-- It has been cancelled before this moment. -/
def Cancellation.Already (cancellation : Cancellation) (now : Instant) : Prop :=
  match cancellation with
  | never => False
  | before => True
  | during moment => moment < now

theorem awaited_of_already {cancellation : Cancellation} {now : Instant}
    (already : cancellation.Already now) (within : Span) (trouble : Trouble) :
    awaited cancellation now within trouble = ⟨now, .cancelled⟩ := by
  cases cancellation with
  | never => exact already.elim
  | before => rfl
  | during moment =>
    have past : moment < now := already
    have order := (awaited_spec .never now within trouble).1
    show (if moment < (awaited .never now within trouble).moment then _ else _) = _
    rw [if_pos (Nat.lt_of_lt_of_le past order), Nat.max_eq_left (Nat.le_of_lt past)]

/-- What has been cancelled already waits for nothing, and its calls never reach the store. -/
theorem call_of_already (already : facilities.cancellation.Already deployment.clock)
    (call : StoreCall) (within : Span) :
    (deployment.call facilities call within).1 = .error .cancelled ∧
      (deployment.call facilities call within).2.clock = deployment.clock := by
  simp only [Deployment.call, start, awaited_of_already already]
  split
  · exact ⟨rfl, rfl⟩
  · exact ⟨rfl, rfl⟩

/-- Once it has been cancelled, an operation gets nothing out of the store any more. -/
theorem not_succeeds_of_already {α : Type} {operation : Operation α}
    (already : facilities.cancellation.Already deployment.clock) :
    ∀ exchange ∈ operation.path (answer facilities) deployment, ¬ exchange.Succeeds := by
  intro exchange member
  have stays : ∀ query (later : Deployment Store),
      facilities.cancellation.Already later.clock →
      facilities.cancellation.Already (answer facilities query later).2.clock := by
    intro query later already
    rcases query.uses_or_not with ⟨call, within, rfl⟩ | unused
    · show facilities.cancellation.Already (later.call facilities call within).2.clock
      rw [(call_of_already already call within).2]
      exact already
    · rw [(answer_of_unused unused).2.1]
      exact already
  obtain ⟨later, already, answered⟩ := Operation.answered_of_mem_path
    (fun later => facilities.cancellation.Already later.clock) stays already member
  obtain ⟨query, answer⟩ := exchange
  cases query with
  | store call within =>
    obtain rfl : answer = .error .cancelled :=
      answered.trans (call_of_already already call within).1
    exact not_false
  | fresh length => exact not_false
  | time => exact not_false
  | verification credential => exact not_false
  | report event => exact not_false

end Deployment
end Signet
