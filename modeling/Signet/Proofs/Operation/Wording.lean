import Signet.Proofs.Operation.Path

/-! Operations that do not heed wording. Failures may be told in other words and events reported in
others; an operation that goes on in the same way all the same comes to the same end. -/

namespace Signet

/-- A store failure without its wording. -/
def StoreError.plain : StoreError → StoreError
  | unavailable _ => unavailable ""
  | protocol _ => protocol ""

/-- An error without its wording. -/
def AuthError.plain : AuthError → AuthError
  | malformed _ => malformed (.other "")
  | unsupportedAlgorithm _ => unsupportedAlgorithm ""
  | unrecognizedPermission _ => unrecognizedPermission ""
  | store error => store error.plain
  | verifierUnavailable _ => verifierUnavailable ""
  | error => error

theorem AuthError.category_plain (error : AuthError) : error.plain.category = error.category := by
  cases error <;> rfl

/-- The same result, but for the wording of an error. -/
inductive Reworded {α : Type} : Except AuthError α → Except AuthError α → Prop where
  | ok (value : α) : Reworded (.ok value) (.ok value)
  | error {first second : AuthError} (same : first.plain = second.plain) :
      Reworded (.error first) (.error second)

theorem Reworded.refl {α : Type} (result : Except AuthError α) : Reworded result result := by
  cases result with
  | ok value => exact .ok value
  | error error => exact .error rfl

/-- What a query is answered with, but for the wording of a failure. -/
def Query.Alike : (query : Query) → query.Answer → query.Answer → Prop
  | fresh _, first, second => first.toOption = second.toOption
  | time, first, second => first = second
  | store _ _, first, second => Reworded first second
  | verification _, first, second => Reworded first second
  | report _, _, _ => True

namespace Operation

variable {α β σ : Type}

/-- Operations that ask the same but for the wording of reports, and go on in the same way when they
are answered alike. Their values are related at last. -/
inductive InStep (related : α → α → Prop) : Operation α → Operation α → Prop where
  | done {first second : α} (last : related first second) :
      InStep related (.done first) (.done second)
  | report {one other : Log.Event} {first second : Unit → Operation α}
      (others : InStep related (first ()) (second ())) :
      InStep related (.ask (.report one) first) (.ask (.report other) second)
  | ask {query : Query} {first second : query.Answer → Operation α}
      (others : ∀ one other, query.Alike one other → InStep related (first one) (second other)) :
      InStep related (.ask query first) (.ask query second)

variable {related : α → α → Prop} {first second : Operation α}

/-- In surroundings that answer alike, operations in step come to related values. -/
theorem InStep.run {one other : Surroundings σ} {matched : σ → σ → Prop}
    (reports : ∀ before after left right, matched left right →
      matched (one (.report before) left).2 (other (.report after) right).2)
    (answers : ∀ query left right, matched left right →
      query.Alike (one query left).1 (other query right).1 ∧
        matched (one query left).2 (other query right).2)
    (step : InStep related first second) {left right : σ} (start : matched left right) :
    related (first.run one left).1 (second.run other right).1 ∧
      matched (first.run one left).2 (second.run other right).2 := by
  induction step generalizing left right with
  | done last => exact ⟨last, start⟩
  | report _ ih => exact ih (reports _ _ _ _ start)
  | ask _ ih =>
    obtain ⟨alike, later⟩ := answers _ _ _ start
    exact ih _ _ alike later

theorem InStep.bind {last : β → β → Prop} {one other : α → Operation β}
    (step : InStep related first second)
    (others : ∀ left right, related left right → InStep last (one left) (other right)) :
    InStep last (first >>= one) (second >>= other) := by
  show InStep last (first.andThen one) (second.andThen other)
  induction step with
  | done same => exact others _ _ same
  | report _ ih => exact .report ih
  | ask _ ih => exact .ask ih

end Operation

namespace Attempt

variable {α β : Type}

/-- Attempts that do not heed wording: in step, with the same result but for that of an error. -/
def InStep (first second : Attempt α) : Prop := Operation.InStep Reworded first.run second.run

namespace InStep

variable {first second : Attempt α}

theorem bind {one other : α → Attempt β} (step : InStep first second)
    (others : ∀ value, InStep (one value) (other value)) :
    InStep (first >>= one) (second >>= other) := by
  unfold InStep
  rw [run_bind, run_bind]
  refine Operation.InStep.bind step ?_
  rintro _ _ (value | same)
  · exact others value
  · exact .done (.error same)

/-- What cannot fail is followed by parts that its values may still tell apart. -/
theorem lift_bind {related : β → β → Prop} {left right : Operation β} {one other : β → Attempt α}
    (step : Operation.InStep related left right)
    (others : ∀ before after, related before after → InStep (one before) (other after)) :
    InStep ((liftM left : Attempt β) >>= one) ((liftM right : Attempt β) >>= other) := by
  have lifted : Operation.InStep
      (fun before after => ∃ value result, before = .ok value ∧ after = .ok result ∧
        related value result) (liftM left : Attempt β).run (liftM right : Attempt β).run :=
    step.bind fun value result same => .done ⟨value, result, rfl, rfl, same⟩
  unfold InStep
  rw [run_bind, run_bind]
  refine lifted.bind ?_
  rintro _ _ ⟨value, result, rfl, rfl, same⟩
  exact others value result same

theorem tryCatch {one other : AuthError → Attempt α} (step : InStep first second)
    (others : ∀ left right, left.plain = right.plain → InStep (one left) (other right)) :
    InStep (tryCatch first one) (tryCatch second other) := by
  unfold InStep
  rw [run_tryCatch, run_tryCatch]
  refine Operation.InStep.bind step ?_
  rintro _ _ (value | same)
  · exact .done (.ok value)
  · exact others _ _ same

theorem pure (value : α) : InStep (Pure.pure value) (Pure.pure value) := .done (.ok value)

theorem throw {left right : AuthError} (same : left.plain = right.plain) :
    InStep (MonadExcept.throw left : Attempt α) (MonadExcept.throw right) := .done (.error same)

theorem ofResult (result : Except AuthError α) :
    InStep (Attempt.ofResult result) (Attempt.ofResult result) :=
  .done (.refl result)

theorem store (call : StoreCall) (within : Span) :
    InStep (Attempt.store call within) (Attempt.store call within) :=
  .ask fun _ _ alike => .done alike

theorem time : InStep (liftM Operation.time : Attempt Timestamp) (liftM Operation.time) :=
  .ask fun moment _ same => same ▸ .done (.ok moment)

/-- Whatever is reported makes no difference. -/
theorem report {level other : Log.Level} {message text : String}
    {fields others : List (String × String)} :
    InStep (liftM (Operation.report level message fields) : Attempt Unit)
      (liftM (Operation.report other text others)) :=
  Operation.InStep.report (.done (.ok ()))

end InStep
end Attempt
end Signet
