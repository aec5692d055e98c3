import Signet.Authority
import Signet.Proofs.Operation.Path

/-! What an authority asks on the way to an answer. A token is issued with one claim, of a secret
drawn just before; a token is accepted only with a secret that the store has answered. -/

namespace Signet

/-- Queries that ask neither for randomness nor for the store. -/
def Query.Quiet : Query → Prop
  | time | report _ => True
  | fresh _ | store .. | verification _ => False

theorem Query.quiet_report (event : Log.Event) : (report event).Quiet := trivial

namespace Authority

variable {authority : Authority} {subject token : String} {permissions required : Permission}
  {exchanges : List Exchange}

/-- What it asks to draw a secret. -/
abbrev draw (authority : Authority) (answer : Except String Secret) : Exchange :=
  ⟨.fresh authority.settings.secretLength.toNat, answer⟩

/-- What it asks to claim a secret for a subject. -/
abbrev claim (authority : Authority) (subject : String) (fresh : Secret)
    (answer : Except AuthError Secret) : Exchange :=
  ⟨.store (.claim (Secret.key subject) fresh authority.settings.secretTtlSpan)
    authority.settings.storeTimeoutSpan, answer⟩

/-- What it asks to read the secret of a subject. -/
abbrev look (authority : Authority) (subject : String)
    (answer : Except AuthError (Option Secret)) : Exchange :=
  ⟨.store (.get (Secret.key subject)) authority.settings.storeTimeoutSpan, answer⟩

private theorem yields_report_iff {level : Log.Level} {message : String}
    {fields : List (String × String)} {value : Unit} :
    (Operation.report level message fields).Yields exchanges value ↔
      exchanges = [⟨.report ⟨level, message, fields⟩, ()⟩] := by
  cases value
  exact Operation.yields_query_iff

/-- A secret is claimed once, and it is the one that has been drawn. -/
theorem claimSecret_path {result : Except AuthError Secret}
    (yields : (authority.claimSecret subject).run.Yields exchanges result) :
    (∃ reason others, exchanges = authority.draw (.error reason) :: others ∧
      (∀ exchange ∈ others, exchange.query.Quiet) ∧ result = .error .issuanceFailed) ∨
    ∃ fresh answer others, exchanges = authority.draw (.ok fresh) ::
      authority.claim subject fresh answer :: others ∧
      (∀ exchange ∈ others, exchange.query.Quiet) ∧ result = answer := by
  rw [claimSecret, Attempt.yields_lift_bind_iff] at yields
  obtain ⟨front, back, drawn, rfl, asked, others⟩ := yields
  obtain rfl := Operation.yields_query_iff.mp asked
  cases drawn with
  | error reason =>
    obtain ⟨before, behind, _, rfl, reported, failed⟩ := Attempt.yields_lift_bind_iff.mp others
    obtain rfl := yields_report_iff.mp reported
    obtain ⟨rfl, rfl⟩ := Operation.yields_pure_iff.mp failed
    exact .inl ⟨reason, _, rfl, by simp [Query.quiet_report], rfl⟩
  | ok fresh =>
    rw [Attempt.run_bind, Operation.yields_bind_iff] at others
    obtain ⟨before, behind, answer, rfl, called, later⟩ := others
    obtain rfl := Attempt.yields_store_iff.mp called
    refine .inr ⟨fresh, answer, behind, rfl, ?_⟩
    cases answer with
    | error error =>
      obtain ⟨rfl, rfl⟩ := Operation.yields_pure_iff.mp later
      exact ⟨by simp, rfl⟩
    | ok live =>
      dsimp only at later
      split at later
      all_goals
        obtain ⟨told, last, _, rfl, reported, ended⟩ := Attempt.yields_lift_bind_iff.mp later
        obtain rfl := yields_report_iff.mp reported
        obtain ⟨rfl, rfl⟩ := Operation.yields_pure_iff.mp ended
        exact ⟨by simp [Query.quiet_report], rfl⟩

/-- A token with these permissions, signed with a secret that has been claimed. -/
def sign (authority : Authority) (subject : String) (permissions : Permission) (secret : Secret) :
    Attempt String := do
  let claims ← Attempt.ofResult (Claims.issue subject permissions (← authority.stampTime)
    authority.settings.tokenLifetime authority.settings.issuer)
  let token ← Attempt.ofResult (authority.codec.encode claims secret)
  Operation.report .info "issued token" [("subject", subject), ("permissions", permissions.text),
    ("exp", toString claims.expiresAt)]
  return token

theorem issue_eq_sign (named : subject ≠ "") : authority.issue subject permissions =
    tryCatch (authority.claimSecret subject) issuanceFailure >>=
      authority.sign subject permissions := by
  unfold issue
  rw [if_neg named]
  rfl

theorem issue_empty : authority.issue "" permissions = throw .missingSubject := rfl

/-- The time that new claims state, after some exchanges. -/
def Stamps (authority : Authority) (exchanges : List Exchange) (moment : Timestamp) : Prop :=
  authority.stamp = some moment ∨ authority.stamp = none ∧ ⟨.time, moment⟩ ∈ exchanges

theorem Stamps.append {moment : Timestamp} (stamps : authority.Stamps exchanges moment)
    (front back : List Exchange) : authority.Stamps (front ++ exchanges ++ back) moment := by
  rcases stamps with stamped | ⟨unstamped, member⟩
  · exact .inl stamped
  · exact .inr ⟨unstamped, by simp [member]⟩

private theorem stampTime_path {moment : Timestamp}
    (yields : authority.stampTime.Yields exchanges moment) :
    authority.Stamps exchanges moment := by
  unfold stampTime at yields
  split at yields
  case h_1 stamp stamped =>
    obtain ⟨rfl, rfl⟩ := Operation.yields_pure_iff.mp yields
    exact .inl stamped
  case h_2 unstamped =>
    obtain rfl := Operation.yields_query_iff.mp yields
    exact .inr ⟨unstamped, List.mem_singleton.mpr rfl⟩

/-- A signed token states the time of the stamp. -/
private theorem sign_path {secret : Secret}
    (yields : (authority.sign subject permissions secret).run.Yields exchanges (.ok token)) :
    ∃ moment claims, authority.Stamps exchanges moment ∧
      Claims.issue subject permissions moment authority.settings.tokenLifetime
        authority.settings.issuer = .ok claims ∧
      authority.codec.encode claims secret = .ok token := by
  unfold sign at yields
  obtain ⟨front, _, moment, rfl, stamped, made⟩ := Attempt.yields_lift_bind_iff.mp yields
  obtain ⟨_, _, claims, rfl, first, signed⟩ := Attempt.yields_bind_iff.mp made
  obtain ⟨rfl, issued⟩ := Attempt.yields_ofResult_iff.mp first
  obtain ⟨_, _, written, rfl, second, told⟩ := Attempt.yields_bind_iff.mp signed
  obtain ⟨rfl, encoded⟩ := Attempt.yields_ofResult_iff.mp second
  obtain ⟨_, _, _, rfl, _, last⟩ := Attempt.yields_lift_bind_iff.mp told
  obtain ⟨rfl, rfl⟩ := Attempt.yields_pure_iff.mp last
  exact ⟨moment, claims, (stampTime_path stamped).append [] _, issued, encoded⟩

theorem stampTime_quiet : authority.stampTime.Only Query.Quiet := by
  unfold stampTime
  split
  · trivial
  · exact Operation.only_query trivial

theorem sign_quiet (secret : Secret) :
    (authority.sign subject permissions secret).run.Only Query.Quiet := by
  refine Attempt.only_bind (Attempt.only_lift stampTime_quiet) fun moment => ?_
  refine Attempt.only_bind (Attempt.only_ofResult _) fun claims => ?_
  refine Attempt.only_bind (Attempt.only_ofResult _) fun token => ?_
  refine Attempt.only_bind (Attempt.only_report Query.quiet_report _ _ _) fun _ => ?_
  exact Attempt.only_pure token

theorem issuanceFailure_quiet {α : Type} (error : AuthError) :
    (issuanceFailure error : Attempt α).run.Only Query.Quiet := by
  unfold issuanceFailure
  split
  · exact Attempt.only_bind (Attempt.only_report Query.quiet_report _ _ _)
      fun _ => Attempt.only_throw _
  · exact Attempt.only_throw _

/-- What is told of an error while a token is issued. -/
def issuanceError : AuthError → AuthError
  | .store _ => .issuanceFailed
  | error => error

private theorem issuanceFailure_path {α : Type} {error : AuthError} {result : Except AuthError α}
    (yields : (issuanceFailure error : Attempt α).run.Yields exchanges result) :
    result = .error (issuanceError error) := by
  unfold issuanceFailure at yields
  split at yields
  case h_1 failure =>
    obtain ⟨_, _, _, rfl, _, failed⟩ := Attempt.yields_lift_bind_iff.mp yields
    exact (Operation.yields_pure_iff.mp failed).2.symm
  case h_2 other =>
    have told : issuanceError error = error := by
      unfold issuanceError
      split
      case h_1 failure => exact absurd rfl (other failure)
      case h_2 => rfl
    rw [told]
    exact (Operation.yields_pure_iff.mp yields).2.symm

private theorem not_yields_issuanceFailure {α : Type} (error : AuthError)
    (exchanges : List Exchange) (value : α) :
    ¬ (issuanceFailure error : Attempt α).run.Yields exchanges (.ok value) := by
  intro yields
  cases issuanceFailure_path yields

/-- While a token is issued, only the claim of one secret asks for the store. If it fails, so does the
issuance; else the secret signs a token. -/
theorem issue_path {result : Except AuthError String}
    (yields : (authority.issue subject permissions).run.Yields exchanges result) :
    (exchanges = [] ∧ result = .error .missingSubject ∧ subject = "") ∨
    (∃ reason others, exchanges = authority.draw (.error reason) :: others ∧
      (∀ exchange ∈ others, exchange.query.Quiet) ∧ result = .error .issuanceFailed) ∨
    subject ≠ "" ∧ ∃ fresh answer others, exchanges = authority.draw (.ok fresh) ::
      authority.claim subject fresh answer :: others ∧
      (∀ exchange ∈ others, exchange.query.Quiet) ∧
      (∀ error, answer = .error error → result = .error (issuanceError error)) ∧
      ∀ secret, answer = .ok secret → ∃ told signing, others = told ++ signing ∧
        (authority.sign subject permissions secret).run.Yields signing result := by
  by_cases named : subject = ""
  · subst named
    rw [issue_empty] at yields
    obtain ⟨none, same⟩ := Operation.yields_pure_iff.mp yields
    exact .inl ⟨none, same.symm, rfl⟩
  rw [issue_eq_sign named, Attempt.run_bind, Operation.yields_bind_iff] at yields
  obtain ⟨front, back, claimed, rfl, first, second⟩ := yields
  rw [Attempt.run_tryCatch, Operation.yields_bind_iff] at first
  obtain ⟨asked, told, answer, rfl, claim, handled⟩ := first
  have handledQuiet : ∀ exchange ∈ told, exchange.query.Quiet := by
    refine Operation.Only.of_mem ?_ handled
    cases answer with
    | ok secret => exact Attempt.only_pure secret
    | error error => exact issuanceFailure_quiet error
  have signedQuiet : ∀ exchange ∈ back, exchange.query.Quiet := by
    refine Operation.Only.of_mem ?_ second
    cases claimed with
    | ok secret => exact sign_quiet secret
    | error error => exact Attempt.only_throw error
  have allQuiet : ∀ others : List Exchange, (∀ exchange ∈ others, exchange.query.Quiet) →
      ∀ exchange ∈ others ++ told ++ back, exchange.query.Quiet := by
    intro others quiet exchange member
    rcases List.mem_append.mp member with before | last
    · rcases List.mem_append.mp before with early | later
      · exact quiet exchange early
      · exact handledQuiet exchange later
    · exact signedQuiet exchange last
  have failed : ∀ error, answer = .error error → result = .error (issuanceError error) := by
    rintro error rfl
    obtain rfl := issuanceFailure_path handled
    exact (Operation.yields_pure_iff.mp second).2.symm
  have signed : ∀ secret, answer = .ok secret →
      (authority.sign subject permissions secret).run.Yields back result := by
    rintro secret rfl
    obtain ⟨-, rfl⟩ := Operation.yields_pure_iff.mp handled
    exact second
  rcases claimSecret_path claim with ⟨reason, others, rfl, quiet, same⟩ |
    ⟨fresh, answer, others, rfl, quiet, rfl⟩
  · exact .inr (.inl
      ⟨reason, others ++ told ++ back, by simp, allQuiet others quiet, failed _ same⟩)
  · refine .inr (.inr ⟨named, fresh, answer, others ++ told ++ back, by simp,
      allQuiet others quiet, failed, ?_⟩)
    intro secret same
    exact ⟨others ++ told, back, rfl, signed secret same⟩

/-- A token that is issued is signed with the secret that the claim has answered. -/
theorem issue_ok_path
    (yields : (authority.issue subject permissions).run.Yields exchanges (.ok token)) :
    subject ≠ "" ∧ ∃ fresh secret others, exchanges = authority.draw (.ok fresh) ::
      authority.claim subject fresh (.ok secret) :: others ∧
      (∀ exchange ∈ others, exchange.query.Quiet) ∧
      ∃ moment claims, authority.Stamps exchanges moment ∧
        Claims.issue subject permissions moment authority.settings.tokenLifetime
          authority.settings.issuer = .ok claims ∧
        authority.codec.encode claims secret = .ok token := by
  rcases issue_path yields with ⟨-, failed, -⟩ | ⟨_, _, _, _, failed⟩ |
    ⟨named, fresh, answer, others, rfl, quiet, failed, signed⟩
  · cases failed
  · cases failed
  cases answer with
  | error error => cases failed error rfl
  | ok secret =>
    obtain ⟨told, signing, rfl, signs⟩ := signed secret rfl
    obtain ⟨moment, claims, stamps, issued, encoded⟩ := sign_path signs
    have stamps := stamps.append (authority.draw (.ok fresh) ::
      authority.claim subject fresh (.ok secret) :: told) []
    rw [List.append_nil] at stamps
    exact ⟨named, fresh, secret, told ++ signing, rfl, quiet, moment, claims, stamps, issued,
      encoded⟩

/-- A secret is claimed with whatever the store answers. -/
private theorem yields_claimSecret {fresh secret : Secret} :
    ∃ event, (authority.claimSecret subject).run.Yields
      [authority.draw (.ok fresh), authority.claim subject fresh (.ok secret),
        ⟨.report event, ()⟩] (.ok secret) := by
  have told : ∃ event, (if secret = fresh then
        (do Operation.report .debug "created secret" [("subject", subject)]; return secret)
      else do
        Operation.report .debug "renewed secret" [("subject", subject)]
        return secret : Attempt Secret).run.Yields [⟨.report event, ()⟩] (.ok secret) := by
    split
    all_goals
      constructor
      refine Attempt.yields_lift_bind_iff.mpr
        ⟨[_], [], (), rfl, Operation.yields_query_iff.mpr rfl, ?_⟩
      exact Attempt.yields_pure_iff.mpr ⟨rfl, rfl⟩
  obtain ⟨event, told⟩ := told
  refine ⟨event, Attempt.yields_lift_bind_iff.mpr
    ⟨[_], _, .ok fresh, rfl, Operation.yields_query_iff.mpr rfl, ?_⟩⟩
  exact Attempt.yields_bind_iff.mpr ⟨[_], _, secret, rfl, Attempt.yields_store_iff.mpr rfl, told⟩

private theorem yields_sign {claims : Claims} {secret : Secret} {moment : Timestamp}
    (stamped : authority.stamp = some moment)
    (made : Claims.issue subject permissions moment authority.settings.tokenLifetime
      authority.settings.issuer = .ok claims)
    (encoded : authority.codec.encode claims secret = .ok token) :
    ∃ event, (authority.sign subject permissions secret).run.Yields [⟨.report event, ()⟩]
      (.ok token) := by
  unfold sign
  constructor
  refine Attempt.yields_lift_bind_iff.mpr ⟨[], _, moment, rfl, ?_, ?_⟩
  · rw [stampTime, stamped]
    exact Operation.yields_pure_iff.mpr ⟨rfl, rfl⟩
  refine Attempt.yields_bind_iff.mpr
    ⟨[], _, claims, rfl, Attempt.yields_ofResult_iff.mpr ⟨rfl, made⟩, ?_⟩
  refine Attempt.yields_bind_iff.mpr
    ⟨[], _, token, rfl, Attempt.yields_ofResult_iff.mpr ⟨rfl, encoded⟩, ?_⟩
  refine Attempt.yields_lift_bind_iff.mpr
    ⟨[_], [], (), rfl, Operation.yields_query_iff.mpr rfl, ?_⟩
  exact Attempt.yields_pure_iff.mpr ⟨rfl, rfl⟩

/-- A token is issued with whatever secret the claim is answered. -/
theorem yields_issue {claims : Claims} {fresh secret : Secret} {moment : Timestamp}
    (named : subject ≠ "") (stamped : authority.stamp = some moment)
    (made : Claims.issue subject permissions moment authority.settings.tokenLifetime
      authority.settings.issuer = .ok claims)
    (encoded : authority.codec.encode claims secret = .ok token) :
    ∃ first second, (authority.issue subject permissions).run.Yields
      [authority.draw (.ok fresh), authority.claim subject fresh (.ok secret),
        ⟨.report first, ()⟩, ⟨.report second, ()⟩] (.ok token) := by
  obtain ⟨first, claimed⟩ := yields_claimSecret
  obtain ⟨second, signed⟩ := yields_sign stamped made encoded
  rw [issue_eq_sign named]
  refine ⟨first, second, Attempt.yields_bind_iff.mpr ⟨[_, _, _], _, secret, rfl, ?_, signed⟩⟩
  exact (Attempt.yields_tryCatch_iff not_yields_issuanceFailure).mpr claimed

/-- What it asks to drop the secret of a subject. -/
abbrev drop (authority : Authority) (subject : String) (answer : Except AuthError Unit) : Exchange :=
  ⟨.store (.delete (Secret.key subject)) authority.settings.storeTimeoutSpan, answer⟩

/-- The secret of a subject is dropped with one call, whose answer is the result. -/
theorem revokeSubject_path {result : Except AuthError Unit}
    (yields : (authority.revokeSubject subject).run.Yields exchanges result) :
    ∃ others, exchanges = authority.drop subject result :: others ∧
      ∀ exchange ∈ others, exchange.query.Quiet := by
  unfold revokeSubject at yields
  rw [Attempt.run_bind, Operation.yields_bind_iff] at yields
  obtain ⟨_, back, answer, rfl, called, later⟩ := yields
  obtain rfl := Attempt.yields_store_iff.mp called
  cases answer with
  | error error =>
    obtain ⟨rfl, rfl⟩ := Operation.yields_pure_iff.mp later
    exact ⟨[], rfl, by simp⟩
  | ok value =>
    have quiet := Operation.Only.of_mem
      (Attempt.only_report Query.quiet_report .info "revoked all tokens" [("subject", subject)])
      later
    obtain ⟨_, _, _, rfl, -, last⟩ := Operation.yields_bind_iff.mp later
    obtain ⟨-, rfl⟩ := Operation.yields_pure_iff.mp last
    exact ⟨_, rfl, quiet⟩

theorem reject_quiet {α : Type} (error : AuthError) :
    (reject subject error : Attempt α).run.Only Query.Quiet := by
  unfold reject
  dsimp only
  split
  all_goals
    exact Attempt.only_bind (Attempt.only_report Query.quiet_report _ _ _)
      fun _ => Attempt.only_throw _

/-- A rejection ends with the error that it reports. -/
theorem reject_path {α : Type} {error : AuthError} {result : Except AuthError α}
    (yields : (reject subject error : Attempt α).run.Yields exchanges result) :
    result = .error error := by
  unfold reject at yields
  dsimp only at yields
  split at yields
  all_goals
    obtain ⟨_, _, _, rfl, _, failed⟩ := Attempt.yields_lift_bind_iff.mp yields
    exact (Operation.yields_pure_iff.mp failed).2.symm

theorem not_yields_reject {α : Type} (subject : String) (error : AuthError)
    (exchanges : List Exchange) (value : α) :
    ¬ (reject subject error : Attempt α).run.Yields exchanges (.ok value) := by
  intro yields
  cases reject_path yields

/-- Whatever rejecting a token comes to was found out before it was reported. -/
theorem rejecting_path {α : Type} {attempt : Attempt α} {result : Except AuthError α}
    (yields : (rejecting subject attempt).run.Yields exchanges result) :
    ∃ front back, exchanges = front ++ back ∧ attempt.run.Yields front result := by
  rw [rejecting, Attempt.run_tryCatch, Operation.yields_bind_iff] at yields
  obtain ⟨front, back, found, rfl, tried, ended⟩ := yields
  refine ⟨front, back, rfl, ?_⟩
  cases found with
  | error error =>
    obtain rfl := reject_path ended
    exact tried
  | ok value =>
    obtain ⟨-, rfl⟩ := Operation.yields_pure_iff.mp ended
    exact tried

/-- The secret of a subject is read with one call. -/
theorem currentSecret_path {result : Except AuthError (Option Secret)}
    (yields : (authority.currentSecret subject).run.Yields exchanges result) :
    ∃ answer, exchanges = [authority.look subject answer] ∧
      result = answer.map (Option.filter (!·.isEmpty)) := by
  unfold currentSecret at yields
  rw [Attempt.run_bind, Operation.yields_bind_iff] at yields
  obtain ⟨_, _, answer, rfl, asked, last⟩ := yields
  obtain rfl := Attempt.yields_store_iff.mp asked
  cases answer with
  | error error =>
    obtain ⟨rfl, rfl⟩ := Operation.yields_pure_iff.mp last
    exact ⟨_, rfl, rfl⟩
  | ok found =>
    obtain ⟨rfl, rfl⟩ := Operation.yields_pure_iff.mp last
    exact ⟨_, rfl, rfl⟩

/-- While a token is revoked, the secret of its subject is read once. Nothing else is asked for unless
that secret has signed the token; then it is dropped, and how that ends is the result. -/
theorem revoke_path {result : Except AuthError Unit}
    (yields : (authority.revoke token).run.Yields exchanges result) :
    exchanges = [] ∨ ∃ hint answer others, Token.peek token = .ok hint ∧
      exchanges = authority.look hint.subject answer :: others ∧
      ((∀ exchange ∈ others, exchange.query.Quiet) ∨
        ∃ secret claims told, answer = .ok (some secret) ∧
          authority.codec.decodeIgnoringTime token secret = .ok claims ∧
          others = authority.drop hint.subject result :: told ∧
          ∀ exchange ∈ told, exchange.query.Quiet) := by
  unfold revoke at yields
  cases peeked : Token.peek token with
  | error error =>
    rw [peeked] at yields
    obtain ⟨rfl, -⟩ := Operation.yields_pure_iff.mp yields
    exact .inl rfl
  | ok hint =>
    rw [peeked, Attempt.ofResult_ok_bind, Attempt.run_bind, Operation.yields_bind_iff] at yields
    obtain ⟨_, others, found, rfl, asked, later⟩ := yields
    obtain ⟨answer, rfl, read⟩ := currentSecret_path asked
    refine .inr ⟨hint, answer, others, rfl, rfl, ?_⟩
    rcases found with error | _ | secret
    · obtain ⟨rfl, -⟩ := Operation.yields_pure_iff.mp later
      exact .inl (by simp)
    · exact .inl (Operation.Only.of_mem (Attempt.only_report Query.quiet_report .debug
        "nothing to revoke" [("subject", hint.subject)]) later)
    · dsimp only at later
      have answered : answer = .ok (some secret) := by
        rcases answer with error | found
        · cases read
        · obtain ⟨same, -⟩ := Option.filter_eq_some_iff.mp (Except.ok.inj read).symm
          rw [same]
      cases decoded : authority.codec.decodeIgnoringTime token secret with
      | error error =>
        rw [decoded, Attempt.run_bind, Operation.yields_bind_iff] at later
        obtain ⟨told, last, verdict, rfl, tried, ended⟩ := later
        have rejected : (reject hint.subject error : Attempt Claims).run.Yields told verdict := tried
        have quiet := (reject_quiet error).of_mem rejected
        cases verdict with
        | error error =>
          obtain ⟨rfl, -⟩ := Operation.yields_pure_iff.mp ended
          exact .inl (by simpa using quiet)
        | ok claims => exact absurd rejected (not_yields_reject _ _ _ _)
      | ok claims =>
        rw [decoded] at later
        have dropped : (authority.revokeSubject hint.subject).run.Yields others result := later
        obtain ⟨told, same, quiet⟩ := revokeSubject_path dropped
        exact .inr ⟨secret, claims, told, answered, decoded, same, quiet⟩

end Authority
end Signet
