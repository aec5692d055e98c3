import Signet.Proofs.Operation.Path

/-! Operations that look at secrets only to tell them apart. With other secrets in the same places they
ask the same and come to the same end. -/

namespace Signet

/-- The same failure, or values that are related. -/
inductive Agree {ε α β : Type} (related : α → β → Prop) : Except ε α → Except ε β → Prop where
  | ok {one : α} {other : β} (same : related one other) : Agree related (.ok one) (.ok other)
  | error (error : ε) : Agree related (.error error) (.error error)

namespace Agree

variable {ε α β : Type} {related : α → β → Prop} {first : Except ε α} {second : Except ε β}

theorem rfl_eq (result : Except ε α) : Agree Eq result result := by
  cases result with
  | ok value => exact .ok rfl
  | error error => exact .error error

theorem eq {first second : Except ε α} (agree : Agree Eq first second) : first = second := by
  cases agree with
  | ok same => exact congrArg Except.ok same
  | error error => rfl

theorem map {γ δ : Type} {last : γ → δ → Prop} {image : α → γ} {other : β → δ}
    (agree : Agree related first second)
    (each : ∀ one two, related one two → last (image one) (other two)) :
    Agree last (first.map image) (second.map other) := by
  cases agree with
  | ok same => exact .ok (each _ _ same)
  | error error => exact .error error

end Agree

/-- Which secret of one run stands where which of another does. Whoever only asks whether two secrets
are the same, or whether one is empty, does not tell the runs apart. -/
structure Matching where
  pairs : Secret → Secret → Prop
  same_iff : ∀ {one other left right : Secret}, pairs one other → pairs left right →
    (one = left ↔ other = right)
  full : ∀ {one other : Secret}, pairs one other → one.isEmpty = false ∧ other.isEmpty = false

variable {matching : Matching}

/-- Calls that differ in the secrets that they carry, and how their answers do. -/
inductive StoreCall.Twin (matching : Matching) :
    (one other : StoreCall) → (one.Answer → other.Answer → Prop) → Prop where
  | get (key : String) : Twin matching (.get key) (.get key) (Option.Rel matching.pairs)
  | claim (key : String) {fresh other : Secret} (ttl : Span) (paired : matching.pairs fresh other) :
      Twin matching (.claim key fresh ttl) (.claim key other ttl) matching.pairs
  | delete (key : String) : Twin matching (.delete key) (.delete key) Eq

/-- Queries that differ in the secrets that they carry, and how their answers do. -/
inductive Query.Twin (matching : Matching) :
    (one other : Query) → (one.Answer → other.Answer → Prop) → Prop where
  | fresh {length : Nat} (some : length ≠ 0) :
      Twin matching (.fresh length) (.fresh length) (Agree matching.pairs)
  | time : Twin matching .time .time Eq
  | store {one other : StoreCall} {agree : one.Answer → other.Answer → Prop} (within : Span)
      (calls : StoreCall.Twin matching one other agree) :
      Twin matching (.store one within) (.store other within) (Agree agree)
  | report (event : Log.Event) : Twin matching (.report event) (.report event) Eq

namespace Operation

variable {α β γ δ : Type}

/-- Operations that ask the same but for secrets, and go on like this when they are answered the same
but for secrets. Their values are related at last. -/
inductive Parallel (matching : Matching) (related : α → β → Prop) :
    Operation α → Operation β → Prop where
  | done {one : α} {other : β} (last : related one other) :
      Parallel matching related (.done one) (.done other)
  | ask {one other : Query} {agree : one.Answer → other.Answer → Prop}
      {first : one.Answer → Operation α} {second : other.Answer → Operation β}
      (twin : Query.Twin matching one other agree)
      (others : ∀ left right, agree left right →
        Parallel matching related (first left) (second right)) :
      Parallel matching related (.ask one first) (.ask other second)

namespace Parallel

variable {related : α → β → Prop} {first : Operation α} {second : Operation β}

theorem query {one other : Query} {agree : one.Answer → other.Answer → Prop}
    (twin : Query.Twin matching one other agree) :
    Parallel matching agree (Operation.query one) (Operation.query other) :=
  .ask twin fun _ _ same => .done same

theorem bind {last : γ → δ → Prop} {one : α → Operation γ} {other : β → Operation δ}
    (parallel : Parallel matching related first second)
    (others : ∀ left right, related left right → Parallel matching last (one left) (other right)) :
    Parallel matching last (first >>= one) (second >>= other) := by
  show Parallel matching last (first.andThen one) (second.andThen other)
  induction parallel with
  | done same => exact others _ _ same
  | ask twin _ ih => exact .ask twin ih

end Parallel
end Operation

namespace Attempt

variable {α β γ δ : Type}

/-- Attempts that heed no secret, and fail in the same way or come to related values. -/
def Parallel (matching : Matching) (related : α → β → Prop) (first : Attempt α)
    (second : Attempt β) : Prop :=
  Operation.Parallel matching (Agree related) first.run second.run

namespace Parallel

variable {related : α → β → Prop} {first : Attempt α} {second : Attempt β}

theorem bind {last : γ → δ → Prop} {one : α → Attempt γ} {other : β → Attempt δ}
    (parallel : Parallel matching related first second)
    (others : ∀ left right, related left right → Parallel matching last (one left) (other right)) :
    Parallel matching last (first >>= one) (second >>= other) := by
  unfold Parallel
  rw [run_bind, run_bind]
  refine Operation.Parallel.bind parallel ?_
  rintro _ _ (same | error)
  · exact others _ _ same
  · exact .done (.error error)

theorem lift {one : Operation α} {other : Operation β}
    (parallel : Operation.Parallel matching related one other) :
    Parallel matching related (liftM one) (liftM other) :=
  Operation.Parallel.bind parallel fun _ _ same => .done (.ok same)

theorem tryCatch {handler : AuthError → Attempt α} {other : AuthError → Attempt β}
    (parallel : Parallel matching related first second)
    (others : ∀ error, Parallel matching related (handler error) (other error)) :
    Parallel matching related (MonadExcept.tryCatch first handler)
      (MonadExcept.tryCatch second other) := by
  unfold Parallel
  rw [run_tryCatch, run_tryCatch]
  refine Operation.Parallel.bind parallel ?_
  rintro _ _ (same | error)
  · exact .done (.ok same)
  · exact others error

theorem ofResult {one : Except AuthError α} {other : Except AuthError β}
    (agree : Agree related one other) :
    Parallel matching related (Attempt.ofResult one) (Attempt.ofResult other) :=
  .done agree

theorem pure {one : α} {other : β} (same : related one other) :
    Parallel matching related (Pure.pure one) (Pure.pure other) :=
  .done (.ok same)

theorem throw (error : AuthError) :
    Parallel matching related (MonadExcept.throw error) (MonadExcept.throw error) :=
  .done (.error error)

theorem store {one other : StoreCall} {agree : one.Answer → other.Answer → Prop}
    (calls : StoreCall.Twin matching one other agree) (within : Span) :
    Parallel matching agree (Attempt.store one within) (Attempt.store other within) :=
  .query (.store within calls)

theorem time : Parallel matching Eq (liftM Operation.time : Attempt Timestamp)
    (liftM Operation.time) :=
  lift (.query .time)

theorem report (level : Log.Level) (message : String) (fields : List (String × String)) :
    Parallel matching Eq (liftM (Operation.report level message fields) : Attempt Unit)
      (liftM (Operation.report level message fields)) :=
  lift (.query (.report _))

end Parallel
end Attempt
end Signet
