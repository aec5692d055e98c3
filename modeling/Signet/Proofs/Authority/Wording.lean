import Signet.Proofs.Authority.Path
import Signet.Proofs.Operation.Wording

/-! An authority does not heed the wording of failures. It tells them on or hides them by their kind
alone, and goes on in the same way whatever the words. -/

namespace Signet
namespace Authority

open Attempt (InStep)

variable {authority : Authority} {subject token : String} {permissions required : Permission}

theorem inStep_reject {α : Type} {first second : AuthError} (same : first.plain = second.plain) :
    InStep (reject subject first : Attempt α) (reject subject second) := by
  have category : first.category = second.category := by
    rw [← first.category_plain, same, second.category_plain]
  unfold reject
  dsimp only
  rw [category]
  split
  all_goals exact .bind .report fun _ => .throw same

theorem inStep_rejecting {α : Type} {first second : Attempt α} (step : InStep first second) :
    InStep (rejecting subject first) (rejecting subject second) :=
  step.tryCatch fun _ _ same => inStep_reject same

theorem inStep_issuanceFailure {α : Type} {first second : AuthError}
    (same : first.plain = second.plain) :
    InStep (issuanceFailure first : Attempt α) (issuanceFailure second) := by
  unfold issuanceFailure
  split
  case h_1 failure =>
    cases second with
    | store other => exact .bind .report fun _ => .throw rfl
    | _ => cases same
  case h_2 other =>
    split
    case h_1 failure =>
      cases first with
      | store error => exact absurd rfl (other error)
      | _ => cases same
    case h_2 => exact .throw same

theorem inStep_currentSecret : InStep (authority.currentSecret subject)
    (authority.currentSecret subject) := by
  unfold currentSecret
  exact .bind (.store _ _) fun _ => .pure _

theorem inStep_claimSecret : InStep (authority.claimSecret subject)
    (authority.claimSecret subject) := by
  unfold claimSecret
  refine .lift_bind (.ask fun _ _ alike => .done alike) ?_
  intro first second alike
  cases first with
  | error reason =>
    cases second with
    | error other => exact .bind .report fun _ => .throw rfl
    | ok fresh => cases alike
  | ok fresh =>
    cases second with
    | error reason => cases alike
    | ok other =>
      obtain rfl : fresh = other := Option.some.inj alike
      refine .bind (.store _ _) fun live => ?_
      dsimp only
      split
      all_goals exact .bind .report fun _ => .pure _

theorem inStep_sign {secret : Secret} : InStep (authority.sign subject permissions secret)
    (authority.sign subject permissions secret) := by
  unfold sign stampTime
  refine .bind ?_ fun moment => ?_
  · split
    · exact .pure _
    · exact .time
  · exact .bind (.ofResult _) fun _ => .bind (.ofResult _) fun _ => .bind .report fun _ => .pure _

theorem inStep_issue : InStep (authority.issue subject permissions)
    (authority.issue subject permissions) := by
  by_cases named : subject = ""
  · subst named
    exact .throw rfl
  · rw [issue_eq_sign named]
    have claimed : InStep (tryCatch (authority.claimSecret subject) issuanceFailure)
        (tryCatch (authority.claimSecret subject) issuanceFailure) :=
      inStep_claimSecret.tryCatch fun _ _ same => inStep_issuanceFailure same
    exact claimed.bind fun _ => inStep_sign

theorem inStep_decode {secret : Secret} : InStep (authority.decode token secret)
    (authority.decode token secret) := by
  unfold decode
  exact .bind .time fun _ => .ofResult _

theorem inStep_reverify {tried : Secret} : InStep (authority.reverify token subject tried)
    (authority.reverify token subject tried) := by
  unfold reverify
  refine inStep_currentSecret.bind fun found => ?_
  cases found with
  | none => exact .throw rfl
  | some fresh =>
    dsimp only
    split
    · exact .bind .report fun _ => inStep_decode
    · exact .throw rfl

theorem inStep_accept {hint : Claims} {secret : Secret} :
    InStep (authority.accept token hint secret) (authority.accept token hint secret) := by
  unfold accept
  refine .bind .time fun now => ?_
  split
  · exact .pure _
  · split
    · exact inStep_reverify
    · exact .throw rfl
  · exact .throw rfl

theorem inStep_verify : InStep (authority.verify token required)
    (authority.verify token required) := by
  unfold verify
  refine .bind (.ofResult _) fun hint => inStep_currentSecret.bind fun found => ?_
  cases found with
  | none => exact inStep_reject rfl
  | some secret =>
    exact (inStep_rejecting inStep_accept).bind fun _ => .bind .report fun _ => .pure _

theorem inStep_revoke : InStep (authority.revoke token) (authority.revoke token) := by
  unfold revoke
  refine .bind (.ofResult _) fun hint => inStep_currentSecret.bind fun found => ?_
  cases found with
  | none => exact .report
  | some secret =>
    refine (inStep_rejecting (.ofResult _)).bind fun _ => ?_
    exact .bind (.store _ _) fun _ => .report

end Authority
end Signet
