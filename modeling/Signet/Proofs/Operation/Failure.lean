import Signet.Proofs.Operation.Path

/-! What an operation makes of store calls that fail. After one it makes no other, and it ends with
what it tells of the error; and the calls that it makes are no more than a bound, whatever they are
answered with. -/

namespace Signet

/-- How many store calls a query makes. -/
def Query.calls : Query → Nat
  | store .. => 1
  | fresh _ | time | verification _ | report _ => 0

/-- The error with which a store call is answered. -/
def Query.failure? : (query : Query) → query.Answer → Option AuthError
  | store .., .error error => some error
  | store .., .ok _ => none
  | fresh _, _ | time, _ | verification _, _ | report _, _ => none

theorem Query.failure?_of_calls_eq_zero {query : Query} (uncalled : query.calls = 0)
    (answer : query.Answer) : query.failure? answer = none := by
  cases query with
  | store call within => cases uncalled
  | fresh length => rfl
  | time => rfl
  | verification credential => rfl
  | report event => rfl

namespace Operation

variable {α β : Type}

/-- Whatever the answers are, it makes no more than so many store calls. -/
def CallsAtMost : Nat → Operation α → Prop
  | _, done _ => True
  | count, ask query next =>
    ∃ rest, query.calls + rest = count ∧ ∀ answer, (next answer).CallsAtMost rest

theorem callsAtMost_pure (value : α) : (pure value : Operation α).CallsAtMost 0 := trivial

theorem CallsAtMost.mono {fewer more : Nat} {operation : Operation α}
    (few : operation.CallsAtMost fewer) (le : fewer ≤ more) : operation.CallsAtMost more := by
  induction operation generalizing fewer more with
  | done value => trivial
  | ask query next ih =>
    obtain ⟨rest, rfl, others⟩ := few
    exact ⟨more - query.calls, by omega, fun answer => ih answer (others answer) (by omega)⟩

/-- The calls of two operations add up. -/
theorem callsAtMost_bind {before behind : Nat} {first : Operation α} {next : α → Operation β}
    (early : first.CallsAtMost before) (late : ∀ value, (next value).CallsAtMost behind) :
    (first >>= next).CallsAtMost (before + behind) := by
  show (first.andThen next).CallsAtMost (before + behind)
  induction first generalizing before with
  | done value => exact (late value).mono (Nat.le_add_left ..)
  | ask query rest ih =>
    obtain ⟨count, rfl, others⟩ := early
    exact ⟨count + behind, by omega, fun answer => ih answer (others answer)⟩

theorem callsAtMost_of_only {operation : Operation α} (only : operation.Only (·.calls = 0)) :
    operation.CallsAtMost 0 := by
  induction operation with
  | done value => trivial
  | ask query next ih =>
    obtain ⟨uncalled, others⟩ := only
    exact ⟨0, uncalled, fun answer => ih answer (others answer)⟩

/-- It makes no store call any more and ends with this error. -/
def EndsWith (error : AuthError) : Operation (Except AuthError α) → Prop
  | done result => result = .error error
  | ask query next => query.calls = 0 ∧ ∀ answer, (next answer).EndsWith error

/-- A store call that fails is the last, and the operation ends with what is told of the error. Unless
one has failed, it does not end as if the infrastructure had. -/
def Relays (told : AuthError → AuthError) : Operation (Except AuthError α) → Prop
  | done result => ∀ error, result = .error error → error.category ≠ .infrastructure
  | ask query next => ∀ answer,
    (∀ error, query.failure? answer = some error → (next answer).EndsWith (told error)) ∧
      (query.failure? answer = none → (next answer).Relays told)

variable {told wanted : AuthError → AuthError}

theorem endsWith_bind {error last : AuthError} {first : Operation (Except AuthError α)}
    {next : Except AuthError α → Operation (Except AuthError β)} (ends : first.EndsWith error)
    (later : (next (.error error)).EndsWith last) : (first >>= next).EndsWith last := by
  show (first.andThen next).EndsWith last
  induction first with
  | done result =>
    obtain rfl : result = .error error := ends
    exact later
  | ask query rest ih =>
    obtain ⟨uncalled, others⟩ := ends
    exact ⟨uncalled, fun answer => ih answer (others answer)⟩

theorem EndsWith.relays {error : AuthError} {operation : Operation (Except AuthError α)}
    (ends : operation.EndsWith error) (other : error.category ≠ .infrastructure) :
    operation.Relays told := by
  induction operation with
  | done result =>
    obtain rfl : result = .error error := ends
    intro found same
    obtain rfl := Except.error.inj same
    exact other
  | ask query next ih =>
    obtain ⟨uncalled, others⟩ := ends
    intro answer
    have none := query.failure?_of_calls_eq_zero uncalled answer
    refine ⟨fun error failed => ?_, fun _ => ih answer (others answer)⟩
    cases none.symm.trans failed

/-- What follows an operation goes on with its failures as with its values. -/
theorem relays_bind {first : Operation (Except AuthError α)}
    {next : Except AuthError α → Operation (Except AuthError β)} (before : first.Relays told)
    (failed : ∀ error, (next (.error (told error))).EndsWith (wanted error))
    (behind : ∀ result : Except AuthError α,
      (∀ error, result = .error error → error.category ≠ .infrastructure) →
        (next result).Relays wanted) : (first >>= next).Relays wanted := by
  show (first.andThen next).Relays wanted
  induction first with
  | done result => exact behind result before
  | ask query rest ih =>
    intro answer
    obtain ⟨ends, others⟩ := before answer
    exact ⟨fun error same => endsWith_bind (ends error same) (failed error),
      fun none => ih answer (others none)⟩

/-- What calls nothing is followed by whatever relays. -/
theorem relays_of_uncalled_bind {first : Operation α}
    {next : α → Operation (Except AuthError β)} (uncalled : first.Only (·.calls = 0))
    (behind : ∀ value, (next value).Relays told) : (first >>= next).Relays told := by
  show (first.andThen next).Relays told
  induction first with
  | done value => exact behind value
  | ask query rest ih =>
    intro answer
    have none := query.failure?_of_calls_eq_zero uncalled.1 answer
    refine ⟨fun error failed => ?_, fun _ => ih answer (uncalled.2 answer)⟩
    cases none.symm.trans failed

end Operation

namespace Attempt

open Operation

variable {α β : Type} {attempt : Attempt α} {told image : AuthError → AuthError} {error : AuthError}
  {before behind : Nat}

theorem callsAtMost_store (call : StoreCall) (within : Span) :
    (store call within).run.CallsAtMost 1 :=
  ⟨0, rfl, fun _ => trivial⟩

theorem callsAtMost_bind {first : Attempt α} {next : α → Attempt β}
    (early : first.run.CallsAtMost before) (late : ∀ value, (next value).run.CallsAtMost behind) :
    (first >>= next).run.CallsAtMost (before + behind) := by
  refine Operation.callsAtMost_bind early ?_
  rintro (error | value)
  · exact (callsAtMost_pure _).mono (Nat.zero_le _)
  · exact late value

/-- What calls nothing adds no call to those before it. -/
theorem callsAtMost_bind_of_only {first : Attempt α} {next : α → Attempt β}
    (early : first.run.CallsAtMost before) (late : ∀ value, (next value).run.Only (·.calls = 0)) :
    (first >>= next).run.CallsAtMost before :=
  callsAtMost_bind early fun value => callsAtMost_of_only (late value)

/-- What calls nothing adds no call to those behind it. -/
theorem callsAtMost_of_only_bind {first : Attempt α} {next : α → Attempt β}
    (early : first.run.Only (·.calls = 0)) (late : ∀ value, (next value).run.CallsAtMost behind) :
    (first >>= next).run.CallsAtMost behind := by
  have few := callsAtMost_bind (callsAtMost_of_only early) late
  rwa [Nat.zero_add] at few

theorem callsAtMost_tryCatch {handler : AuthError → Attempt α}
    (early : attempt.run.CallsAtMost before)
    (late : ∀ error, (handler error).run.Only (·.calls = 0)) :
    (tryCatch attempt handler).run.CallsAtMost before := by
  have few : (tryCatch attempt handler).run.CallsAtMost (before + 0) := by
    refine Operation.callsAtMost_bind early ?_
    rintro (error | value)
    · exact callsAtMost_of_only (late error)
    · exact callsAtMost_pure _
  exact few

theorem relays_pure (value : α) : (pure value : Attempt α).run.Relays told :=
  fun _ same => nomatch same

theorem relays_throw (other : error.category ≠ .infrastructure) :
    (throw error : Attempt α).run.Relays told := by
  intro found same
  obtain rfl := Except.error.inj same
  exact other

theorem relays_store (call : StoreCall) (within : Span) : (store call within).run.Relays id := by
  rintro (error | value)
  · refine ⟨fun found same => ?_, fun none => nomatch none⟩
    obtain rfl := Option.some.inj same
    rfl
  · refine ⟨fun found same => ?_, fun none found same => ?_⟩
    · cases same
    · cases same

theorem relays_bind {first : Attempt α} {next : α → Attempt β} (early : first.run.Relays told)
    (late : ∀ value, (next value).run.Relays told) : (first >>= next).run.Relays told := by
  refine Operation.relays_bind early (fun _ => rfl) ?_
  rintro (error | value) other
  · exact relays_throw (other error rfl)
  · exact late value

theorem relays_lift {operation : Operation α} (uncalled : operation.Only (·.calls = 0)) :
    (liftM operation : Attempt α).run.Relays told :=
  relays_of_uncalled_bind uncalled fun value => relays_pure value

/-- A check that asks for nothing is followed by what it has found. -/
theorem relays_ofResult_bind {result : Except AuthError α} {next : α → Attempt β}
    (refused : ∀ error, result = .error error → error.category ≠ .infrastructure)
    (late : ∀ value, result = .ok value → (next value).run.Relays told) :
    (ofResult result >>= next).run.Relays told := by
  cases result with
  | error error => exact relays_throw (refused error rfl)
  | ok value => exact late value rfl

/-- A handler that only tells of an error in another way. -/
theorem relays_tryCatch {handler : AuthError → Attempt α} (relays : attempt.run.Relays told)
    (handled : ∀ error, (handler error).run.EndsWith (image error))
    (other : ∀ error, error.category ≠ .infrastructure →
      (image error).category ≠ .infrastructure) :
    (tryCatch attempt handler).run.Relays (image ∘ told) := by
  refine Operation.relays_bind relays (fun error => handled (told error)) ?_
  rintro (error | value) found
  · exact (handled error).relays (other error (found error rfl))
  · exact relays_pure value

end Attempt
end Signet
