import Signet.Deployment
import Signet.Proofs.Operation.Execution

/-! Operations that a deployment executes. They break off at a secret that is too long to be laid
out, and at an answer of a store far away that cannot be read on, but at nothing else; what does not
break off has run, so that all that holds of runs holds of it. -/

namespace Signet

/-- A query for no more bytes than can be laid out. -/
def Query.Fits : Query → Prop
  | fresh length => length ≤ Secret.greatestLength
  | time | store .. | verification _ | report _ => True

namespace Deployment

open Operation (Agrees)

variable {σ α : Type} [SecretStore σ] {facilities : Facilities σ} {deployment after : Deployment σ}
  {operation : Operation α} {value : α}

theorem respond_fresh_of_overlong {length : Nat} (long : Secret.greatestLength < length) :
    respond facilities (.fresh length) deployment = (none, deployment) :=
  if_neg (Nat.not_le.mpr long)

theorem respond_fresh_eq_none_iff {length : Nat} :
    (respond facilities (.fresh length) deployment).1 = none ↔ Secret.greatestLength < length := by
  rcases Nat.lt_or_ge Secret.greatestLength length with long | short
  · exact iff_of_true (congrArg Prod.fst (respond_fresh_of_overlong long)) long
  · refine iff_of_false ?_ (Nat.not_lt.mpr short)
    rw [respond, if_pos short]
    nofun

theorem respond_store_eq_none_iff {call : StoreCall} {within : Span} :
    (respond facilities (.store call within) deployment).1 = none ↔
      deployment.breaks facilities call within = true := by
  rw [respond]
  cases deployment.breaks facilities call within
  · exact iff_of_false nofun nofun
  · exact iff_of_true rfl rfl

/-- What is responded is what the deployment answers. -/
theorem agrees_respond : Agrees (respond facilities) (answer facilities) := by
  intro query deployment answer after responded
  cases query with
  | fresh length =>
    rw [respond] at responded
    split at responded
    case isTrue =>
      obtain ⟨drawn, same⟩ := Prod.mk.inj responded
      exact Prod.ext (Option.some.inj drawn) same
    case isFalse => cases responded
  | store call within =>
    rw [respond] at responded
    obtain ⟨read, same⟩ := Prod.mk.inj responded
    split at read
    case isTrue => cases read
    case isFalse => exact Prod.ext (Option.some.inj read) same
  | time | verification _ | report _ =>
    obtain ⟨told, same⟩ := Prod.mk.inj responded
    exact Prod.ext (Option.some.inj told) same

theorem run_of_execute (ended : deployment.execute facilities operation = (some value, after)) :
    deployment.run facilities operation = (value, after) :=
  Operation.run_of_execute agrees_respond ended

section

variable (near : ∀ (store : σ) now call, SecretStore.breaks store now call = false)
include near

theorem breaks_of_near {call : StoreCall} {within : Span} :
    deployment.breaks facilities call within = false := by
  simp only [breaks, near, Bool.and_false]

/-- Whoever has a store that is near breaks off at nothing but secrets that are too long. -/
theorem execute_of_fits (fits : operation.Only Query.Fits) :
    deployment.execute facilities operation =
      (some (deployment.run facilities operation).1, (deployment.run facilities operation).2) := by
  refine Operation.execute_of_answered agrees_respond (Operation.not_breaksAlong ?_)
  intro exchange member state unanswered
  have fit := fits.of_mem (Operation.yields_path _ _ _) exchange member
  obtain ⟨query, answer⟩ := exchange
  cases query with
  | fresh length => exact Nat.not_lt.mpr fit (respond_fresh_eq_none_iff.mp unanswered)
  | store call within =>
    cases (breaks_of_near near).symm.trans (respond_store_eq_none_iff.mp unanswered)
  | time | verification _ | report _ => cases unanswered

end

end Deployment
end Signet
