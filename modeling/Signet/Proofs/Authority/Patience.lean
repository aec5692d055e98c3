import Signet.Proofs.Authority.Claiming
import Signet.Proofs.Deployment.Waiting
import Signet.Proofs.Token.Acceptance

/-! How much trouble with the store an authority puts up with. Each of its operations makes one or two
store calls, waits for each no longer than the settings say, makes no other once one has failed, and
tells of no trouble that it has not met. -/

namespace Signet

theorem Query.Quiet.calls_eq_zero {query : Query} (quiet : query.Quiet) : query.calls = 0 := by
  cases query with
  | fresh length => exact quiet.elim
  | time => rfl
  | store call within => exact quiet.elim
  | verification credential => exact quiet.elim
  | report event => rfl

namespace Authority

open Attempt Operation

variable {authority : Authority} {subject token : String} {permissions required : Permission}
  {image : AuthError → AuthError}

private theorem uncalled_of_quiet {α : Type} {operation : Operation α}
    (only : operation.Only Query.Quiet) : operation.Only (·.calls = 0) :=
  only.mono fun _ quiet => quiet.calls_eq_zero

private theorem uncalled_report {level : Log.Level} {message : String}
    {fields : List (String × String)} :
    (report level message fields).Only (·.calls = 0) :=
  only_query rfl

/-- How many store calls a request takes at most. -/
def Request.calls : Request → Nat
  | issue .. | revokeSubject _ => 1
  | verify .. | revoke _ => 2

/-- What a request is told of the error of a store call. -/
def Request.told : Request → AuthError → AuthError
  | issue .. => issuanceError
  | verify .. | revoke _ | revokeSubject _ => id

theorem endsWith_reject {α : Type} (subject : String) (error : AuthError) :
    (reject subject error : Attempt α).run.EndsWith error := by
  unfold reject
  dsimp only
  split
  · exact ⟨rfl, fun _ => rfl⟩
  · exact ⟨rfl, fun _ => rfl⟩

theorem endsWith_issuanceFailure {α : Type} (error : AuthError) :
    (issuanceFailure error : Attempt α).run.EndsWith (issuanceError error) := by
  unfold issuanceFailure
  split
  case h_1 failure => exact ⟨rfl, fun _ => rfl⟩
  case h_2 other =>
    unfold issuanceError
    split
    case h_1 failure => exact absurd rfl (other failure)
    case h_2 => exact rfl

theorem relays_currentSecret : (authority.currentSecret subject).run.Relays id :=
  Attempt.relays_bind (relays_store _ _) fun _ => relays_pure _

theorem relays_rejecting {α : Type} {attempt : Attempt α} (relays : attempt.run.Relays image) :
    (rejecting subject attempt).run.Relays image := by
  have rejected : (rejecting subject attempt).run.Relays (id ∘ image) :=
    relays_tryCatch relays (endsWith_reject subject) fun _ other => other
  exact rejected

private theorem relays_decode {hint : Claims} {secret : Secret}
    (peeked : Token.peek token = .ok hint) : (authority.decode token secret).run.Relays image := by
  refine Attempt.relays_bind (relays_lift (only_query rfl)) fun now => ?_
  intro error refused
  exact Token.Codec.category_of_decode_error peeked refused

private theorem relays_reverify {hint : Claims} {tried : Secret}
    (peeked : Token.peek token = .ok hint) :
    (authority.reverify token subject tried).run.Relays id := by
  refine Attempt.relays_bind relays_currentSecret fun found => ?_
  cases found with
  | none => exact relays_throw nofun
  | some fresh =>
    dsimp only
    split
    · exact Attempt.relays_bind (relays_lift uncalled_report) fun _ => relays_decode peeked
    · exact relays_throw nofun

private theorem relays_accept {hint : Claims} {secret : Secret}
    (peeked : Token.peek token = .ok hint) :
    (authority.accept token hint secret).run.Relays id := by
  refine Attempt.relays_bind (relays_lift (only_query rfl)) fun now => ?_
  split
  case h_1 => exact relays_pure _
  case h_2 =>
    split
    · exact relays_reverify peeked
    · exact relays_throw nofun
  case h_3 error other refused =>
    exact relays_throw (Token.Codec.category_of_decode_error peeked refused)

theorem relays_verify : (authority.verify token required).run.Relays id := by
  refine relays_ofResult_bind (fun error unread => ?_) fun hint peeked => ?_
  · rw [Token.category_of_peek_error unread]
    exact nofun
  refine Attempt.relays_bind relays_currentSecret fun found => ?_
  cases found with
  | none => exact (endsWith_reject _ _).relays nofun
  | some secret =>
    refine Attempt.relays_bind (relays_rejecting (relays_accept peeked)) fun claims => ?_
    exact Attempt.relays_bind (relays_lift uncalled_report) fun _ => relays_pure _

theorem relays_revokeSubject : (authority.revokeSubject subject).run.Relays id :=
  Attempt.relays_bind (relays_store _ _) fun _ => relays_lift uncalled_report

theorem relays_revoke : (authority.revoke token).run.Relays id := by
  refine relays_ofResult_bind (fun error unread => ?_) fun hint peeked => ?_
  · rw [Token.category_of_peek_error unread]
    exact nofun
  refine Attempt.relays_bind relays_currentSecret fun found => ?_
  cases found with
  | none => exact relays_lift uncalled_report
  | some secret =>
    refine Attempt.relays_bind (relays_rejecting ?_) fun claims => relays_revokeSubject
    intro error refused
    exact Token.Codec.category_of_decodeIgnoringTime_error peeked refused

private theorem relays_claimSecret : (authority.claimSecret subject).run.Relays id := by
  refine Attempt.relays_bind (relays_lift ?_) fun drawn => ?_
  · exact only_query rfl
  cases drawn with
  | error reason =>
    exact Attempt.relays_bind (relays_lift uncalled_report) fun _ => relays_throw nofun
  | ok fresh =>
    refine Attempt.relays_bind (relays_store _ _) fun live => ?_
    dsimp only
    split
    · exact Attempt.relays_bind (relays_lift uncalled_report) fun _ => relays_pure _
    · exact Attempt.relays_bind (relays_lift uncalled_report) fun _ => relays_pure _

private theorem relays_sign {secret : Secret} (named : subject ≠ "") :
    (authority.sign subject permissions secret).run.Relays image := by
  refine Attempt.relays_bind (relays_lift (uncalled_of_quiet stampTime_quiet)) fun moment => ?_
  rw [Claims.issue_of_named named, ofResult_ok_bind,
    Token.Codec.encode_eq_ok_iff.mpr ⟨Claims.check_of_named named, rfl⟩, ofResult_ok_bind]
  exact Attempt.relays_bind (relays_lift uncalled_report) fun _ => relays_pure _

theorem relays_issue : (authority.issue subject permissions).run.Relays issuanceError := by
  by_cases named : subject = ""
  · subst named
    exact relays_throw nofun
  rw [issue_eq_sign named]
  refine Attempt.relays_bind ?_ fun secret => relays_sign named
  have claimed : (tryCatch (authority.claimSecret subject) issuanceFailure).run.Relays
      (issuanceError ∘ id) := by
    refine relays_tryCatch relays_claimSecret endsWith_issuanceFailure fun error other => ?_
    unfold issuanceError
    split
    · exact nofun
    · exact other
  exact claimed

/-- A store call that fails ends a request, which is told of its error. -/
theorem perform_relays (request : Request) :
    (authority.perform request).run.Relays request.told := by
  cases request with
  | issue subject permissions => exact relays_issue
  | verify token required => exact relays_verify
  | revoke token => exact relays_revoke
  | revokeSubject subject => exact relays_revokeSubject

theorem callsAtMost_currentSecret : (authority.currentSecret subject).run.CallsAtMost 1 :=
  callsAtMost_bind_of_only (callsAtMost_store _ _) fun _ => only_pure _

private theorem callsAtMost_reverify {tried : Secret} :
    (authority.reverify token subject tried).run.CallsAtMost 1 := by
  refine callsAtMost_bind_of_only callsAtMost_currentSecret fun found => ?_
  cases found with
  | none => exact only_throw _
  | some fresh =>
    dsimp only
    split
    · refine Attempt.only_bind (only_lift uncalled_report) fun _ => ?_
      refine Attempt.only_bind (only_lift ?_) fun _ => only_ofResult _
      exact only_query rfl
    · exact only_throw _

private theorem callsAtMost_accept {hint : Claims} {secret : Secret} :
    (authority.accept token hint secret).run.CallsAtMost 1 := by
  refine callsAtMost_of_only_bind (only_lift ?_) fun now => ?_
  · exact only_query rfl
  split
  case h_1 => exact (Operation.callsAtMost_pure _).mono (Nat.zero_le _)
  case h_2 =>
    split
    · exact callsAtMost_reverify
    · exact (Operation.callsAtMost_pure _).mono (Nat.zero_le _)
  case h_3 => exact (Operation.callsAtMost_pure _).mono (Nat.zero_le _)

private theorem callsAtMost_rejecting {α : Type} {attempt : Attempt α} {count : Nat}
    (few : attempt.run.CallsAtMost count) : (rejecting subject attempt).run.CallsAtMost count :=
  callsAtMost_tryCatch few fun error => uncalled_of_quiet (reject_quiet error)

private theorem callsAtMost_verify :
    (authority.verify token required).run.CallsAtMost (1 + 1) := by
  refine callsAtMost_of_only_bind (only_ofResult _) fun hint => ?_
  refine Attempt.callsAtMost_bind callsAtMost_currentSecret fun found => ?_
  cases found with
  | none =>
    exact (callsAtMost_of_only (uncalled_of_quiet (reject_quiet _))).mono (Nat.zero_le _)
  | some secret =>
    refine callsAtMost_bind_of_only (callsAtMost_rejecting callsAtMost_accept) fun claims => ?_
    exact Attempt.only_bind (only_lift uncalled_report) fun _ => only_pure _

private theorem callsAtMost_revokeSubject :
    (authority.revokeSubject subject).run.CallsAtMost 1 :=
  callsAtMost_bind_of_only (callsAtMost_store _ _) fun _ => only_lift uncalled_report

private theorem callsAtMost_revoke : (authority.revoke token).run.CallsAtMost (1 + 1) := by
  refine callsAtMost_of_only_bind (only_ofResult _) fun hint => ?_
  refine Attempt.callsAtMost_bind callsAtMost_currentSecret fun found => ?_
  cases found with
  | none => exact (callsAtMost_of_only (only_lift uncalled_report)).mono (Nat.zero_le _)
  | some secret =>
    refine callsAtMost_of_only_bind ?_ fun claims => callsAtMost_revokeSubject
    exact only_tryCatch (only_ofResult _) fun error => uncalled_of_quiet (reject_quiet error)

private theorem callsAtMost_claimSecret : (authority.claimSecret subject).run.CallsAtMost 1 := by
  refine callsAtMost_of_only_bind (only_lift ?_) fun drawn => ?_
  · exact only_query rfl
  cases drawn with
  | error reason =>
    refine (callsAtMost_of_only ?_).mono (Nat.zero_le _)
    exact Attempt.only_bind (only_lift uncalled_report) fun _ => only_throw _
  | ok fresh =>
    refine callsAtMost_bind_of_only (callsAtMost_store _ _) fun live => ?_
    dsimp only
    split
    · exact Attempt.only_bind (only_lift uncalled_report) fun _ => only_pure _
    · exact Attempt.only_bind (only_lift uncalled_report) fun _ => only_pure _

private theorem callsAtMost_issue : (authority.issue subject permissions).run.CallsAtMost 1 := by
  by_cases named : subject = ""
  · subst named
    exact (Operation.callsAtMost_pure _).mono (Nat.zero_le _)
  rw [issue_eq_sign named]
  refine callsAtMost_bind_of_only ?_ fun secret => uncalled_of_quiet (sign_quiet secret)
  exact callsAtMost_tryCatch callsAtMost_claimSecret
    fun error => uncalled_of_quiet (issuanceFailure_quiet error)

theorem perform_callsAtMost (request : Request) :
    (authority.perform request).run.CallsAtMost request.calls := by
  cases request with
  | issue subject permissions => exact callsAtMost_issue
  | verify token required => exact callsAtMost_verify
  | revoke token => exact callsAtMost_revoke
  | revokeSubject subject => exact callsAtMost_revokeSubject

/-- No call is waited for longer than the settings say. -/
theorem perform_within (request : Request) : (authority.perform request).run.Only
    fun query => ∀ call within, query = .store call within →
      within = authority.settings.storeTimeoutSpan := by
  have quiet : ∀ query : Query, query.Quiet → ∀ call within, query = .store call within →
      within = authority.settings.storeTimeoutSpan := by
    rintro query quiet call within rfl
    exact quiet.elim
  have asked : ∀ made call within, Query.store made authority.settings.storeTimeoutSpan =
      .store call within → within = authority.settings.storeTimeoutSpan := by
    rintro made call within same
    injection same with _ same
    exact same.symm
  cases request with
  | issue subject permissions =>
    exact issue_only quiet (fun _ _ same => nomatch same) fun fresh => asked _
  | verify token required => exact verify_only quiet fun hint peeked => asked _
  | revoke token =>
    exact revoke_only quiet (fun hint peeked => asked _) fun hint peeked => asked _
  | revokeSubject subject => exact revokeSubject_only quiet (asked _)

/-- What a request comes to in a deployment whose calls meet trouble: how long it takes at most, and
what it may say of the trouble. -/
structure Patient {σ : Type} [SecretStore σ] (authority : Authority) (request : Request)
    (facilities : Deployment.Facilities σ) (before after : Deployment σ)
    (waited : List Deployment.Wait) (answer : Except AuthError request.Answer) : Prop where
  few : waited.length ≤ request.calls
  /-- How each wait is over, and that it is for no longer than the settings say. -/
  each : ∀ wait ∈ waited, wait.Over facilities ∧
    wait.within = authority.settings.storeTimeoutSpan
  slow : before.clock ≤ after.clock ∧
    after.clock ≤ before.clock + waited.length * authority.settings.storeTimeoutSpan
  cut : ∀ moment, facilities.cancellation = .during moment → after.clock ≤ max before.clock moment
  unbegun : facilities.cancellation = .before → after.clock = before.clock
  cancelled : answer = .error .cancelled → facilities.cancellation.DueBy after.clock
  timedOut : answer = .error .timeout →
    ∃ wait ∈ waited, wait.trouble.Outlasts authority.settings.storeTimeoutSpan
  failed : ∀ error, answer = .error (.store error) →
    ∃ wait ∈ waited, wait.failure = some (.store error)
  /-- A wait that fails is the last, and what is told of its error is the answer. -/
  last : ∀ front wait back error, waited = front ++ wait :: back → wait.failure = some error →
    back = [] ∧ answer = .error (request.told error)
  /-- Whoever is answered well has met no such trouble. -/
  untroubled : ∀ value, answer = .ok value → ∀ wait ∈ waited,
    wait.failure = none ∧ ¬ wait.trouble.Outlasts authority.settings.storeTimeoutSpan

/-- Trouble is told of as it is met, or else kept from the caller. -/
private theorem cause_of_told {request : Request} {cause error : AuthError}
    (told : error = request.told cause) (trouble : error.category = .infrastructure) :
    cause = error := by
  cases request with
  | issue subject permissions =>
    cases cause with
    | store failure =>
      rw [told] at trouble
      cases trouble
    | _ => exact told.symm
  | verify token required => exact told.symm
  | revoke token => exact told.symm
  | revokeSubject subject => exact told.symm

/-- Whatever trouble its calls meet, and whenever it is cancelled, a request takes no more time than its
calls may take and no time after it has been cancelled, tells of no trouble that it has not met, and
is not answered well if it has met any. -/
theorem troubles_bounded {σ : Type} [SecretStore σ] (authority : Authority) (request : Request)
    (facilities : Deployment.Facilities σ) (deployment : Deployment σ) :
    authority.Patient request facilities deployment
      (deployment.attempt facilities (authority.perform request)).2
      (Deployment.waitsOf facilities (authority.perform request).run deployment)
      (deployment.attempt facilities (authority.perform request)).1 := by
  obtain ⟨consecutive, sound⟩ :=
    Deployment.consecutive_run facilities (authority.perform request).run deployment
  obtain ⟨last, caused⟩ :=
    Deployment.waitsOf_relays (perform_relays request) facilities deployment
  have within : ∀ wait ∈ Deployment.waitsOf facilities (authority.perform request).run deployment,
      wait.within = authority.settings.storeTimeoutSpan := fun wait member =>
    Deployment.asked_of_mem_waitsOf (perform_within request) member wait.call wait.within rfl
  -- What is told of trouble has befallen some wait.
  have met : ∀ error, (deployment.attempt facilities (authority.perform request)).1 =
      .error error → error.category = .infrastructure →
      ∃ wait ∈ Deployment.waitsOf facilities (authority.perform request).run deployment,
        wait.failure = some error := by
    intro error same trouble
    obtain ⟨wait, member, cause, failure, told⟩ := caused error same trouble
    exact ⟨wait, member, cause_of_told told trouble ▸ failure⟩
  obtain ⟨order, ended⟩ := consecutive.ended_le sound
  refine
    { few := Deployment.length_waitsOf_le (perform_callsAtMost request) facilities deployment
      each := fun wait member => ⟨(sound wait member).ends, within wait member⟩
      slow := ⟨order, consecutive.stop_le sound within⟩
      cut := fun moment during => consecutive.stop_le_of_during sound during
      unbegun := consecutive.stop_eq_of_before sound
      cancelled := ?cancelled, timedOut := ?timedOut
      failed := fun error same => met _ same rfl, last, untroubled := ?untroubled }
  case cancelled =>
    intro same
    obtain ⟨wait, member, failure⟩ := met _ same rfl
    exact ((sound wait member).ends.due_of_cancelled failure).mono (ended wait member)
  case timedOut =>
    intro same
    obtain ⟨wait, member, failure⟩ := met _ same rfl
    exact ⟨wait, member, within wait member ▸ (sound wait member).ends.outlasts_of_timeout failure⟩
  case untroubled =>
    intro value same wait member
    have none : wait.failure = none := by
      cases failure : wait.failure with
      | none => rfl
      | some error =>
        obtain ⟨front, back, split⟩ := List.append_of_mem member
        cases same.symm.trans (last front wait back error split failure).2
    exact ⟨none, within wait member ▸ (sound wait member).ends.not_outlasts none⟩

end Authority
end Signet
