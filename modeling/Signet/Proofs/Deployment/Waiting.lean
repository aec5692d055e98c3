import Signet.Proofs.Deployment.Storage
import Signet.Proofs.Operation.Failure

/-! The waits of an operation. A store call is waited for until it is answered, has taken too long or
the operation is cancelled. So the time that an operation takes is bounded by the calls that it makes
and by when it is cancelled, whatever trouble the calls meet. -/

namespace Signet

/-- No answer comes within this time. -/
def Trouble.Outlasts (trouble : Trouble) (within : Span) : Prop :=
  ∀ span, trouble.wait = some span → within < span

theorem Trouble.not_outlasts {trouble : Trouble} {within span : Span}
    (waited : trouble.wait = some span) (short : span ≤ within) : ¬ trouble.Outlasts within :=
  fun outlasts => Nat.not_lt.mpr short (outlasts span waited)

namespace Deployment

variable {σ α : Type}

/-- It has been cancelled by this moment. -/
def Cancellation.DueBy : Cancellation → Instant → Prop
  | never, _ => False
  | before, _ => True
  | during moment, now => moment ≤ now

theorem Cancellation.DueBy.mono {cancellation : Cancellation} {now later : Instant}
    (due : cancellation.DueBy now) (order : now ≤ later) : cancellation.DueBy later := by
  cases cancellation with
  | never => exact due
  | before => trivial
  | during moment => exact Nat.le_trans due order

/-- How the wait for a call can be over. -/
inductive Awaited (cancellation : Cancellation) (now : Instant) (within : Span)
    (trouble : Trouble) : Pending → Prop where
  | met {span : Span} (waited : trouble.wait = some span) (short : span ≤ within) :
    Awaited cancellation now within trouble ⟨now + span, .met trouble⟩
  | timedOut (outlasts : trouble.Outlasts within) :
    Awaited cancellation now within trouble ⟨now + within, .timedOut⟩
  | cancelled {moment : Instant} (due : cancellation.DueBy moment) (order : now ≤ moment)
    (short : moment ≤ now + within) :
    Awaited cancellation now within trouble ⟨moment, .cancelled⟩

section

variable {now : Instant} {within : Span} {trouble : Trouble}

private theorem awaited_never_cases (cancellation : Cancellation) (now : Instant) (within : Span)
    (trouble : Trouble) :
    Awaited cancellation now within trouble (awaited .never now within trouble) := by
  cases waited : trouble.wait with
  | none =>
    have ended : awaited .never now within trouble = ⟨now + within, .timedOut⟩ := by
      simp [awaited, waited]
    rw [ended]
    refine .timedOut fun span same => ?_
    cases waited.symm.trans same
  | some span =>
    by_cases short : span ≤ within
    · have ended : awaited .never now within trouble = ⟨now + span, .met trouble⟩ := by
        simp [awaited, waited, Option.filter, short]
      rw [ended]
      exact .met waited short
    · have ended : awaited .never now within trouble = ⟨now + within, .timedOut⟩ := by
        simp [awaited, waited, Option.filter, short]
      rw [ended]
      refine .timedOut fun other same => ?_
      obtain rfl := Option.some.inj (waited.symm.trans same)
      exact Nat.lt_of_not_le short

theorem Awaited.moment_le {cancellation : Cancellation} {pending : Pending}
    (ends : Awaited cancellation now within trouble pending) : pending.moment ≤ now + within := by
  cases ends with
  | met waited short => exact Nat.add_le_add_left short now
  | timedOut outlasts => exact Nat.le_refl _
  | cancelled due order short => exact short

private theorem awaited_during (moment : Instant) :
    awaited (.during moment) now within trouble =
      if moment < (awaited .never now within trouble).moment then ⟨max now moment, .cancelled⟩
      else awaited .never now within trouble := rfl

theorem awaited_cases (cancellation : Cancellation) :
    Awaited cancellation now within trouble (awaited cancellation now within trouble) := by
  have unbroken := awaited_never_cases cancellation now within trouble
  cases cancellation with
  | never => exact unbroken
  | before => exact .cancelled trivial (Nat.le_refl now) (Nat.le_add_right now within)
  | during moment =>
    rw [awaited_during]
    split
    case isTrue early =>
      have inside : moment ≤ now + within := Nat.le_trans (Nat.le_of_lt early) unbroken.moment_le
      exact .cancelled (Nat.le_max_right now moment) (Nat.le_max_left now moment)
        (Nat.max_le.mpr ⟨Nat.le_add_right now within, inside⟩)
    case isFalse => exact unbroken

/-- Nothing is waited for beyond the moment at which the operation is cancelled. -/
theorem awaited_during_le (moment : Instant) :
    (awaited (.during moment) now within trouble).moment ≤ max now moment := by
  rw [awaited_during]
  split
  case isTrue => exact Nat.le_refl _
  case isFalse late => exact Nat.le_trans (Nat.le_of_not_lt late) (Nat.le_max_right now moment)

end

/-- A wait for a store call: how long it may take and what trouble the call meets, from when to when it
takes, and the error that it ends with, if it does. -/
structure Wait where
  call : StoreCall
  within : Span
  trouble : Trouble
  begun : Instant
  ended : Instant
  failure : Option AuthError

variable [SecretStore σ]

/-- How a wait is over: the call is answered in time, or it fails, by itself or because nobody waits
for it any longer. -/
inductive Wait.Over (facilities : Facilities σ) (wait : Wait) : Prop where
  | answered {span : Span} (waited : wait.trouble.wait = some span) (short : span ≤ wait.within)
    (ended : wait.ended = wait.begun + span) (none : wait.failure = none)
  | failed {error : StoreError} (failed : wait.trouble = .failing error ∨ ∃ store : σ,
      (SecretStore.answer store wait.ended wait.call).answer = .error error)
    (short : wait.ended ≤ wait.begun + wait.within)
    (failure : wait.failure = some (.store error))
  | timedOut (outlasts : wait.trouble.Outlasts wait.within)
    (ended : wait.ended = wait.begun + wait.within) (failure : wait.failure = some .timeout)
  | cancelled (due : facilities.cancellation.DueBy wait.ended)
    (short : wait.ended ≤ wait.begun + wait.within) (failure : wait.failure = some .cancelled)

/-- A wait that ends as it should, and when it should. -/
structure Wait.Sound (facilities : Facilities σ) (wait : Wait) : Prop where
  ends : wait.Over facilities
  order : wait.begun ≤ wait.ended
  cut : ∀ moment, facilities.cancellation = .during moment → wait.ended ≤ max wait.begun moment
  unbegun : facilities.cancellation = .before → wait.ended = wait.begun

theorem Wait.Over.short {facilities : Facilities σ} {wait : Wait} (ends : wait.Over facilities) :
    wait.ended ≤ wait.begun + wait.within := by
  cases ends with
  | answered waited short ended none => exact ended ▸ Nat.add_le_add_left short wait.begun
  | failed failed short failure => exact short
  | timedOut outlasts ended failure => exact Nat.le_of_eq ended
  | cancelled due short failure => exact short

theorem Wait.Over.due_of_cancelled {facilities : Facilities σ} {wait : Wait}
    (ends : wait.Over facilities) (failure : wait.failure = some .cancelled) :
    facilities.cancellation.DueBy wait.ended := by
  cases ends with
  | answered waited short ended none => cases none.symm.trans failure
  | failed failed short other => cases other.symm.trans failure
  | timedOut outlasts ended other => cases other.symm.trans failure
  | cancelled due short same => exact due

theorem Wait.Over.outlasts_of_timeout {facilities : Facilities σ} {wait : Wait}
    (ends : wait.Over facilities) (failure : wait.failure = some .timeout) :
    wait.trouble.Outlasts wait.within := by
  cases ends with
  | answered waited short ended none => cases none.symm.trans failure
  | failed failed short other => cases other.symm.trans failure
  | timedOut outlasts ended same => exact outlasts
  | cancelled due short other => cases other.symm.trans failure

theorem Wait.Over.not_outlasts {facilities : Facilities σ} {wait : Wait}
    (ends : wait.Over facilities) (none : wait.failure = none) :
    ¬ wait.trouble.Outlasts wait.within := by
  cases ends with
  | answered waited short ended none => exact Trouble.not_outlasts waited short
  | failed failed short failure => cases none.symm.trans failure
  | timedOut outlasts ended failure => cases none.symm.trans failure
  | cancelled due short failure => cases none.symm.trans failure

variable {facilities : Facilities σ} {deployment : Deployment σ}

/-- The wait that a query is answered after, if it is a store call. -/
def wait? (before after : Deployment σ) : (query : Query) → query.Answer → Option Wait
  | .store call within, answer => some
    { call, within, trouble := before.troubles.next call, begun := before.clock,
      ended := after.clock, failure := Query.failure? (.store call within) answer }
  | .fresh _, _ | .time, _ | .verification _, _ | .report _, _ => none

/-- The waits of an operation. -/
def waitsOf (facilities : Facilities σ) : Operation α → Deployment σ → List Wait
  | .done _, _ => []
  | .ask query next, deployment =>
    (deployment.wait? (answer facilities query deployment).2 query
        (answer facilities query deployment).1).toList ++
      waitsOf facilities (next (answer facilities query deployment).1)
        (answer facilities query deployment).2

private theorem failure?_reach (deployment : Deployment σ) (call : StoreCall) (within : Span) :
    Query.failure? (.store call within) (deployment.reach call).1 = none ∨
      ∃ error, (SecretStore.answer deployment.store deployment.clock call).answer = .error error ∧
        Query.failure? (.store call within) (deployment.reach call).1 = some (.store error) := by
  cases refused : (SecretStore.answer deployment.store deployment.clock call).answer with
  | ok answer => exact .inl (by simp only [reach, refused, Query.failure?])
  | error error => exact .inr ⟨error, rfl, by simp only [reach, refused, Query.failure?]⟩

/-- A call that is answered in time fails on its own account, if it does. -/
private theorem failure?_met (deployment : Deployment σ) (call : StoreCall) (within : Span)
    (trouble : Trouble) :
    Query.failure? (.store call within) (deployment.finish call (.met trouble)).1 = none ∨
      ∃ error, (trouble = .failing error ∨
          (SecretStore.answer deployment.store deployment.clock call).answer = .error error) ∧
        Query.failure? (.store call within) (deployment.finish call (.met trouble)).1 =
          some (.store error) := by
  have reached : Query.failure? (.store call within) (deployment.reach call).1 = none ∨
      ∃ error, (trouble = .failing error ∨
          (SecretStore.answer deployment.store deployment.clock call).answer = .error error) ∧
        Query.failure? (.store call within) (deployment.reach call).1 = some (.store error) := by
    rcases failure?_reach deployment call within with none | ⟨error, refused, failed⟩
    · exact .inl none
    · exact .inr ⟨error, .inr refused, failed⟩
  cases trouble with
  | failing error => exact .inr ⟨error, .inl rfl, rfl⟩
  | answering secret =>
    cases scripted : scripted secret call with
    | some answer =>
      refine .inl ?_
      simp only [finish, scripted]
      rfl
    | none =>
      simp only [finish, scripted]
      exact reached
  | pass => exact reached
  | hanging => exact reached
  | late span => exact reached

theorem clock_finish (deployment : Deployment σ) (call : StoreCall) (ending : Ending) :
    (deployment.finish call ending).2.clock = deployment.clock := by
  rcases finish_cases deployment call ending with alone | reached
  · rw [alone]
  · rw [reached]
    rfl

/-- A call is over at the moment at which the wait for it ends. -/
private theorem call_eq_finish (facilities : Facilities σ) (deployment : Deployment σ)
    (call : StoreCall) (within : Span) : ∃ middle : Deployment σ,
      middle.clock = (awaited facilities.cancellation deployment.clock within
        (deployment.troubles.next call)).moment ∧
      deployment.call facilities call within = middle.finish call (awaited facilities.cancellation
        deployment.clock within (deployment.troubles.next call)).ending := by
  by_cases before : facilities.cancellation = .before
  · exact ⟨{ deployment with clock := _ }, rfl, by simp only [Deployment.call, start, if_pos before]⟩
  · exact ⟨{ deployment with clock := _, troubles := deployment.troubles.drop call }, rfl,
      by simp only [Deployment.call, start, if_neg before]⟩

private theorem over_of_awaited {middle : Deployment σ} {call : StoreCall} {within : Span}
    {trouble : Trouble} {pending : Pending}
    (ends : Awaited facilities.cancellation deployment.clock within trouble pending)
    (moment : middle.clock = pending.moment) :
    Wait.Over facilities ⟨call, within, trouble, deployment.clock, pending.moment,
      Query.failure? (.store call within) (middle.finish call pending.ending).1⟩ := by
  cases ends with
  | met waited short =>
    rcases failure?_met middle call within trouble with none | ⟨error, cause, failed⟩
    · exact .answered waited short rfl none
    · rw [moment] at cause
      refine .failed ?_ (Nat.add_le_add_left short _) failed
      exact cause.imp_right fun refused => ⟨middle.store, refused⟩
  | timedOut outlasts => exact .timedOut outlasts rfl rfl
  | cancelled due order short => exact .cancelled due short rfl

/-- What a query is answered after is a wait from then on, or no time at all. -/
private theorem wait?_cases (facilities : Facilities σ) (deployment : Deployment σ) (query : Query) :
    (query.calls = 0 ∧ (answer facilities query deployment).2.clock = deployment.clock ∧
      deployment.wait? (answer facilities query deployment).2 query
        (answer facilities query deployment).1 = none) ∨
    ∃ wait : Wait, query = .store wait.call wait.within ∧ wait.begun = deployment.clock ∧
      wait.ended = (answer facilities query deployment).2.clock ∧
      wait.failure = query.failure? (answer facilities query deployment).1 ∧
      wait.Sound facilities ∧ deployment.wait? (answer facilities query deployment).2 query
        (answer facilities query deployment).1 = some wait := by
  cases query with
  | store call within =>
    refine .inr ⟨_, rfl, rfl, rfl, rfl, ?_, rfl⟩
    show Wait.Sound facilities ⟨call, within, deployment.troubles.next call, deployment.clock,
      (deployment.call facilities call within).2.clock,
      Query.failure? (.store call within) (deployment.call facilities call within).1⟩
    obtain ⟨middle, moment, finished⟩ := call_eq_finish facilities deployment call within
    rw [finished, clock_finish, moment]
    refine ⟨over_of_awaited (awaited_cases _) moment, (awaited_spec ..).1, ?_, ?_⟩
    · intro instant cancelled
      rw [cancelled]
      exact awaited_during_le instant
    · intro before
      rw [before]
      rfl
  | fresh length => exact .inl ⟨rfl, (answer_of_unused rfl).2.1, rfl⟩
  | time => exact .inl ⟨rfl, rfl, rfl⟩
  | verification credential => exact .inl ⟨rfl, rfl, rfl⟩
  | report event => exact .inl ⟨rfl, rfl, rfl⟩

theorem Wait.Over.failure_cases {wait : Wait} {error : AuthError} (ends : wait.Over facilities)
    (failure : wait.failure = some error) :
    (∃ failure, error = .store failure) ∨ error = .timeout ∨ error = .cancelled := by
  cases ends with
  | answered waited short ended none => cases none.symm.trans failure
  | failed failed short same =>
    exact .inl ⟨_, Option.some.inj (failure.symm.trans same)⟩
  | timedOut outlasts ended same =>
    exact .inr (.inl (Option.some.inj (failure.symm.trans same)))
  | cancelled due short same =>
    exact .inr (.inr (Option.some.inj (failure.symm.trans same)))

/-- A call fails by trouble with the store, or because nobody waits for it any longer. -/
theorem failure_of_mem_path {operation : Operation α} {exchange : Exchange} {error : AuthError}
    (member : exchange ∈ operation.path (answer facilities) deployment)
    (failed : exchange.query.failure? exchange.answer = some error) :
    (∃ failure, error = .store failure) ∨ error = .timeout ∨ error = .cancelled := by
  obtain ⟨later, -, answered⟩ := Operation.answered_of_mem_path (fun _ => True)
    (fun _ _ _ => trivial) trivial member
  rw [answered] at failed
  rcases wait?_cases facilities later exchange.query with ⟨uncalled, -, -⟩ |
    ⟨wait, -, -, -, failure, sound, -⟩
  · cases (Query.failure?_of_calls_eq_zero uncalled _).symm.trans failed
  · exact sound.ends.failure_cases (failure.trans failed)

/-- Waits that take up the time between two moments, one after the other. -/
def Consecutive : Instant → List Wait → Instant → Prop
  | start, [], stop => start = stop
  | start, wait :: waits, stop => wait.begun = start ∧ Consecutive wait.ended waits stop

/-- An operation takes no time but that of its waits, each of which ends as it should. -/
theorem consecutive_run (facilities : Facilities σ) (operation : Operation α)
    (deployment : Deployment σ) :
    Consecutive deployment.clock (waitsOf facilities operation deployment)
        (deployment.run facilities operation).2.clock ∧
      ∀ wait ∈ waitsOf facilities operation deployment, wait.Sound facilities := by
  induction operation generalizing deployment with
  | done value => exact ⟨rfl, fun wait member => nomatch member⟩
  | ask query next ih =>
    obtain ⟨later, sound⟩ := ih (answer facilities query deployment).1
      (answer facilities query deployment).2
    rcases wait?_cases facilities deployment query with ⟨-, clock, none⟩ |
      ⟨wait, -, begun, ended, -, first, some⟩
    · rw [clock] at later
      rw [waitsOf, none]
      exact ⟨later, sound⟩
    · rw [← ended] at later
      rw [waitsOf, some]
      refine ⟨⟨begun, later⟩, fun other member => ?_⟩
      rcases List.mem_cons.mp member with rfl | behind
      · exact first
      · exact sound other behind

section

variable {start stop : Instant} {waited : List Wait}

theorem Consecutive.ended_le (consecutive : Consecutive start waited stop)
    (sound : ∀ wait ∈ waited, wait.Sound facilities) :
    start ≤ stop ∧ ∀ wait ∈ waited, wait.ended ≤ stop := by
  induction waited generalizing start with
  | nil => exact ⟨Nat.le_of_eq consecutive, fun wait member => nomatch member⟩
  | cons wait waited ih =>
    obtain ⟨rfl, later⟩ := consecutive
    obtain ⟨order, others⟩ := ih later fun wait member => sound wait (List.mem_cons_of_mem _ member)
    refine ⟨Nat.le_trans (sound wait (List.mem_cons_self ..)).order order, fun other member => ?_⟩
    rcases List.mem_cons.mp member with rfl | behind
    · exact order
    · exact others other behind

/-- Each wait takes no longer than it may. -/
theorem Consecutive.stop_le {limit : Span} (consecutive : Consecutive start waited stop)
    (sound : ∀ wait ∈ waited, wait.Sound facilities)
    (limited : ∀ wait ∈ waited, wait.within = limit) : stop ≤ start + waited.length * limit := by
  induction waited generalizing start with
  | nil => exact Nat.le_add_right_of_le (Nat.le_of_eq consecutive.symm)
  | cons wait waited ih =>
    obtain ⟨rfl, later⟩ := consecutive
    have short := (sound wait (List.mem_cons_self ..)).ends.short
    rw [limited wait (List.mem_cons_self ..)] at short
    have others := ih later (fun wait member => sound wait (List.mem_cons_of_mem _ member))
      fun wait member => limited wait (List.mem_cons_of_mem _ member)
    rw [List.length_cons, Nat.succ_mul, Nat.add_comm _ limit, ← Nat.add_assoc]
    exact Nat.le_trans others (Nat.add_le_add_right short _)

/-- Nothing is waited for once the operation has been cancelled. -/
theorem Consecutive.stop_le_of_during {moment : Instant}
    (consecutive : Consecutive start waited stop) (sound : ∀ wait ∈ waited, wait.Sound facilities)
    (during : facilities.cancellation = .during moment) : stop ≤ max start moment := by
  induction waited generalizing start with
  | nil => exact Nat.le_trans (Nat.le_of_eq consecutive.symm) (Nat.le_max_left start moment)
  | cons wait waited ih =>
    obtain ⟨rfl, later⟩ := consecutive
    have cut := (sound wait (List.mem_cons_self ..)).cut moment during
    have others := ih later fun wait member => sound wait (List.mem_cons_of_mem _ member)
    exact Nat.le_trans others (Nat.max_le.mpr ⟨cut, Nat.le_max_right wait.begun moment⟩)

theorem Consecutive.stop_eq_of_before (consecutive : Consecutive start waited stop)
    (sound : ∀ wait ∈ waited, wait.Sound facilities)
    (before : facilities.cancellation = .before) : stop = start := by
  induction waited generalizing start with
  | nil => exact consecutive.symm
  | cons wait waited ih =>
    obtain ⟨rfl, later⟩ := consecutive
    have others := ih later fun wait member => sound wait (List.mem_cons_of_mem _ member)
    exact others.trans ((sound wait (List.mem_cons_self ..)).unbegun before)

end

theorem length_waitsOf_le {count : Nat} {operation : Operation α}
    (few : operation.CallsAtMost count) (facilities : Facilities σ) (deployment : Deployment σ) :
    (waitsOf facilities operation deployment).length ≤ count := by
  induction operation generalizing count deployment with
  | done value => exact Nat.zero_le count
  | ask query next ih =>
    obtain ⟨rest, rfl, others⟩ := few
    have later := ih _ (others (answer facilities query deployment).1)
      (answer facilities query deployment).2
    rcases wait?_cases facilities deployment query with ⟨uncalled, -, none⟩ |
      ⟨wait, called, -, -, -, -, some⟩
    · rw [waitsOf, none, uncalled, Nat.zero_add]
      exact later
    · rw [waitsOf, some, show query.calls = 1 from called ▸ rfl, Nat.add_comm]
      exact Nat.succ_le_succ later

/-- Every wait is for a call that the operation makes. -/
theorem asked_of_mem_waitsOf {allowed : Query → Prop} {operation : Operation α}
    (only : operation.Only allowed) {deployment : Deployment σ} {wait : Wait}
    (member : wait ∈ waitsOf facilities operation deployment) :
    allowed (.store wait.call wait.within) := by
  induction operation generalizing deployment with
  | done value => cases member
  | ask query next ih =>
    obtain ⟨asked, others⟩ := only
    rcases wait?_cases facilities deployment query with ⟨-, -, none⟩ |
      ⟨first, called, -, -, -, -, some⟩
    · rw [waitsOf, none] at member
      exact ih _ (others _) member
    · rw [waitsOf, some] at member
      rcases List.mem_cons.mp member with rfl | behind
      · exact called ▸ asked
      · exact ih _ (others _) behind

theorem waitsOf_endsWith {error : AuthError} {operation : Operation (Except AuthError α)}
    (ends : operation.EndsWith error) (deployment : Deployment σ) :
    waitsOf facilities operation deployment = [] ∧
      (deployment.run facilities operation).1 = .error error := by
  induction operation generalizing deployment with
  | done result => exact ⟨rfl, ends⟩
  | ask query next ih =>
    obtain ⟨uncalled, others⟩ := ends
    rcases wait?_cases facilities deployment query with ⟨-, -, none⟩ |
      ⟨wait, called, -⟩
    · rw [waitsOf, none]
      exact ih _ (others _) _
    · rw [called] at uncalled
      cases uncalled

/-- A wait that fails is the last, and the operation ends with what it tells of the error; it tells of
troubles only where a wait has failed. -/
theorem waitsOf_relays {told : AuthError → AuthError} {operation : Operation (Except AuthError α)}
    (relays : operation.Relays told) (facilities : Facilities σ) (deployment : Deployment σ) :
    (∀ front wait back error,
      waitsOf facilities operation deployment = front ++ wait :: back → wait.failure = some error →
        back = [] ∧ (deployment.run facilities operation).1 = .error (told error)) ∧
    ∀ error, (deployment.run facilities operation).1 = .error error →
      error.category = .infrastructure →
        ∃ wait ∈ waitsOf facilities operation deployment, ∃ cause, wait.failure = some cause ∧
          error = told cause := by
  induction operation generalizing deployment with
  | done result =>
    refine ⟨fun front wait back error same => ?_, fun error same trouble => ?_⟩
    · cases front <;> cases same
    · exact absurd trouble (relays error same)
  | ask query next ih =>
    obtain ⟨failing, going⟩ := relays (answer facilities query deployment).1
    rcases wait?_cases facilities deployment query with ⟨uncalled, -, none⟩ |
      ⟨wait, called, -, -, failure, -, some⟩
    · rw [waitsOf, none]
      exact ih _ (going (query.failure?_of_calls_eq_zero uncalled _)) _
    cases failed : query.failure? (answer facilities query deployment).1 with
    | some error =>
      obtain ⟨last, ended⟩ := waitsOf_endsWith (failing error failed)
        (answer facilities query deployment).2
      rw [failed] at failure
      rw [waitsOf, some, last]
      refine ⟨fun front other back cause same failed => ?_, fun found same trouble => ?_⟩
      · cases front with
        | nil =>
          cases same
          obtain rfl := Option.some.inj (failure.symm.trans failed)
          exact ⟨rfl, ended⟩
        | cons first front => simp at same
      · obtain rfl := Except.error.inj (ended.symm.trans same)
        exact ⟨wait, List.mem_singleton.mpr rfl, error, failure, rfl⟩
    | none =>
      obtain ⟨lost, caused⟩ := ih _ (going failed) (answer facilities query deployment).2
      rw [failed] at failure
      rw [waitsOf, some]
      refine ⟨fun front other back cause same failed => ?_, fun found same trouble => ?_⟩
      · cases front with
        | nil =>
          cases same
          cases failure.symm.trans failed
        | cons first front => exact lost front other back cause (List.cons.inj same).2 failed
      · obtain ⟨other, member, caused⟩ := caused found same trouble
        exact ⟨other, List.mem_cons_of_mem _ member, caused⟩

end Deployment
end Signet
