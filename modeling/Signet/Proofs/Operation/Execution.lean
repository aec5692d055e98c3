import Signet.Proofs.Operation.Path

/-! Operations that may break off. One that comes to its end has run; one that breaks off has come a
part of its way and then asked what nobody answered. -/

namespace Signet.Operation

variable {α σ : Type} {responder : Responder σ} {surroundings : Surroundings σ}
  {operation : Operation α} {state after : σ} {value : α} {exchanges : List Exchange}

/-- Whatever is responded, these surroundings answer the same. -/
def Agrees (responder : Responder σ) (surroundings : Surroundings σ) : Prop :=
  ∀ query state answer after, responder query state = (some answer, after) →
    surroundings query state = (answer, after)

/-- There is a query on this way that is not answered, even if all are answered before it. -/
def BreaksAlong (responder : Responder σ) (surroundings : Surroundings σ) :
    σ → List Exchange → Prop
  | _, [] => False
  | state, exchange :: others => (responder exchange.query state).1 = none ∨
      BreaksAlong responder surroundings (surroundings exchange.query state).2 others

theorem not_breaksAlong
    (answered : ∀ exchange ∈ exchanges, ∀ state, (responder exchange.query state).1 ≠ none) :
    ¬ BreaksAlong responder surroundings state exchanges := by
  induction exchanges generalizing state with
  | nil => exact id
  | cons exchange others ih =>
    rintro (unanswered | later)
    · exact answered exchange (List.mem_cons_self ..) state unanswered
    · exact ih (fun other member => answered other (List.mem_cons_of_mem _ member)) later

variable (agrees : Agrees responder surroundings)
include agrees

/-- An operation that comes to its end has run. -/
theorem run_of_execute (ended : operation.execute responder state = (some value, after)) :
    operation.run surroundings state = (value, after) := by
  induction operation generalizing state with
  | done result =>
    cases ended
    rfl
  | ask query next ih =>
    rw [execute] at ended
    rcases responded : responder query state with ⟨_ | answer, middle⟩
    · rw [responded] at ended
      cases ended
    · rw [responded] at ended
      have later := ih answer ended
      rw [run, agrees query state answer middle responded]
      exact later

/-- An operation breaks off if and only if something on its way is not answered. -/
theorem execute_eq_none_iff : (operation.execute responder state).1 = none ↔
    BreaksAlong responder surroundings state (operation.path surroundings state) := by
  induction operation generalizing state with
  | done result => exact iff_of_false nofun id
  | ask query next ih =>
    rw [execute, path, BreaksAlong]
    rcases responded : responder query state with ⟨_ | answer, middle⟩
    · exact iff_of_true rfl (.inl rfl)
    · rw [agrees query state answer middle responded]
      exact (ih answer).trans ⟨.inr, fun either => either.resolve_left nofun⟩

/-- If everything on its way is answered, an operation comes to what its run comes to. -/
theorem execute_of_answered (answered : ¬ BreaksAlong responder surroundings state
      (operation.path surroundings state)) : operation.execute responder state =
    (some (operation.run surroundings state).1, (operation.run surroundings state).2) := by
  rcases ended : operation.execute responder state with ⟨_ | value, after⟩
  · exact absurd ((execute_eq_none_iff agrees).mp (congrArg Prod.fst ended)) answered
  · rw [run_of_execute agrees ended]

end Signet.Operation
