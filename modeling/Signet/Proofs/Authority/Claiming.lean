import Signet.Proofs.Authority.Path
import Signet.Proofs.History

/-! Which secrets are offered to the store. A call claims at most once, and what it offers is the
secret that it has drawn; so whatever stands under a key and was not there at the start has been
drawn by one call. -/

namespace Signet

/-- Queries that claim a secret. -/
def Query.Claims : Query → Prop
  | store (.claim ..) _ => True
  | fresh _ | time | store (.get _) _ | store (.delete _) _ | verification _ | report _ => False

theorem Query.Quiet.not_claims {query : Query} (quiet : query.Quiet) : ¬ query.Claims := by
  cases query with
  | fresh length => exact quiet.elim
  | time => exact not_false
  | store call within => exact quiet.elim
  | verification credential => exact quiet.elim
  | report event => exact not_false

/-- Whatever is claimed has been drawn before, and nothing has been claimed before. -/
def Frugal (exchanges : List Exchange) : Prop :=
  ∀ front key fresh ttl within answer back,
    exchanges = front ++ ⟨.store (.claim key fresh ttl) within, answer⟩ :: back →
    (∃ length, ⟨.fresh length, .ok fresh⟩ ∈ front) ∧ ∀ exchange ∈ front, ¬ exchange.query.Claims

theorem frugal_of_none {exchanges : List Exchange}
    (none : ∀ exchange ∈ exchanges, ¬ exchange.query.Claims) : Frugal exchanges := by
  rintro front key fresh ttl within answer back rfl
  exact absurd trivial (none ⟨.store (.claim key fresh ttl) within, answer⟩ (by simp))

theorem Frugal.of_append {front back : List Exchange} (frugal : Frugal (front ++ back)) :
    Frugal front := by
  rintro before key fresh ttl within answer behind rfl
  refine frugal before key fresh ttl within answer (behind ++ back) ?_
  simp

/-- A claim right after a draw of what it offers. -/
theorem frugal_claim {length : Nat} {key : String} {fresh : Secret} {ttl within : Span}
    {answer : Except AuthError Secret} {others : List Exchange}
    (none : ∀ exchange ∈ others, ¬ exchange.query.Claims) :
    Frugal (⟨.fresh length, .ok fresh⟩ :: ⟨.store (.claim key fresh ttl) within, answer⟩ ::
      others) := by
  intro front other offered span wait result back same
  rcases front with _ | ⟨first, _ | ⟨second, front⟩⟩
  · cases same
  · cases same
    refine ⟨⟨length, List.mem_singleton.mpr rfl⟩, ?_⟩
    intro exchange member
    cases List.mem_singleton.mp member
    exact not_false
  · injection same with _ same
    injection same with _ same
    subst same
    exact absurd trivial (none ⟨.store (.claim other offered span) wait, result⟩ (by simp))

namespace Authority

variable {authority : Authority} {subject token : String} {permissions required : Permission}

section

variable {allowed : Query → Prop} (quiet : ∀ query : Query, query.Quiet → allowed query)
include quiet

private theorem only_report {level : Log.Level} {message : String}
    {fields : List (String × String)} :
    (liftM (Operation.report level message fields) : Attempt Unit).run.Only allowed :=
  Attempt.only_report (fun _ => quiet _ trivial) level message fields

private theorem only_time : (liftM Operation.time : Attempt Timestamp).run.Only allowed :=
  Attempt.only_lift (Operation.only_query (quiet _ trivial))

theorem only_reject {α : Type} (error : AuthError) :
    (reject subject error : Attempt α).run.Only allowed := by
  unfold reject
  dsimp only
  split
  · exact Attempt.only_bind (only_report quiet) fun _ => Attempt.only_throw _
  · exact Attempt.only_bind (only_report quiet) fun _ => Attempt.only_throw _

omit quiet in
theorem only_currentSecret
    (look : allowed (.store (.get (Secret.key subject)) authority.settings.storeTimeoutSpan)) :
    (authority.currentSecret subject).run.Only allowed :=
  Attempt.only_bind (Attempt.only_store look) fun _ => Attempt.only_pure _

private theorem only_accept {hint : Claims} {secret : Secret}
    (look : allowed (.store (.get (Secret.key hint.subject))
      authority.settings.storeTimeoutSpan)) :
    (authority.accept token hint secret).run.Only allowed := by
  refine Attempt.only_bind (only_time quiet) fun now => ?_
  split
  · exact Attempt.only_pure _
  · split
    · refine Attempt.only_bind (only_currentSecret look) fun found => ?_
      cases found with
      | none => exact Attempt.only_throw _
      | some fresh =>
        dsimp only
        split
        · refine Attempt.only_bind (only_report quiet) fun _ => ?_
          exact Attempt.only_bind (only_time quiet) fun moment => Attempt.only_ofResult _
        · exact Attempt.only_throw _
    · exact Attempt.only_throw _
  · exact Attempt.only_throw _

private theorem only_claimSecret
    (draw : allowed (.fresh authority.settings.secretLength.toNat))
    (claim : ∀ fresh, allowed (.store (.claim (Secret.key subject) fresh
      authority.settings.secretTtlSpan) authority.settings.storeTimeoutSpan)) :
    (authority.claimSecret subject).run.Only allowed := by
  refine Attempt.only_bind (Attempt.only_lift (Operation.only_query draw)) fun drawn => ?_
  cases drawn with
  | error reason => exact Attempt.only_bind (only_report quiet) fun _ => Attempt.only_throw _
  | ok fresh =>
    refine Attempt.only_bind (Attempt.only_store (claim fresh)) fun live => ?_
    dsimp only
    split
    · exact Attempt.only_bind (only_report quiet) fun _ => Attempt.only_pure _
    · exact Attempt.only_bind (only_report quiet) fun _ => Attempt.only_pure _

/-- While a token is issued, a secret is drawn, and the store is asked for nothing but a claim for
the subject. -/
theorem issue_only
    (draw : allowed (.fresh authority.settings.secretLength.toNat))
    (claim : ∀ fresh, allowed (.store (.claim (Secret.key subject) fresh
      authority.settings.secretTtlSpan) authority.settings.storeTimeoutSpan)) :
    (authority.issue subject permissions).run.Only allowed := by
  by_cases named : subject = ""
  · subst named
    exact Attempt.only_throw _
  rw [issue_eq_sign named]
  refine Attempt.only_bind ?_ fun secret => (sign_quiet secret).mono quiet
  exact Attempt.only_tryCatch (only_claimSecret quiet draw claim)
    fun error => (issuanceFailure_quiet error).mono quiet

/-- While a token is verified, the store is asked for the secret of its subject only. -/
theorem verify_only (look : ∀ hint, Token.peek token = .ok hint → allowed
      (.store (.get (Secret.key hint.subject)) authority.settings.storeTimeoutSpan)) :
    (authority.verify token required).run.Only allowed := by
  refine Attempt.only_ofResult_bind fun hint peeked => ?_
  have look := look hint peeked
  refine Attempt.only_bind (only_currentSecret look) fun found => ?_
  cases found with
  | none => exact only_reject quiet _
  | some secret =>
    refine Attempt.only_bind (Attempt.only_tryCatch (only_accept quiet look) (only_reject quiet))
      fun claims => ?_
    exact Attempt.only_bind (only_report quiet) fun _ => Attempt.only_pure _

theorem revokeSubject_only (drop : allowed
      (.store (.delete (Secret.key subject)) authority.settings.storeTimeoutSpan)) :
    (authority.revokeSubject subject).run.Only allowed :=
  Attempt.only_bind (Attempt.only_store drop) fun _ => only_report quiet

theorem revoke_only (look : ∀ hint, Token.peek token = .ok hint → allowed
      (.store (.get (Secret.key hint.subject)) authority.settings.storeTimeoutSpan))
    (drop : ∀ hint, Token.peek token = .ok hint → allowed
      (.store (.delete (Secret.key hint.subject)) authority.settings.storeTimeoutSpan)) :
    (authority.revoke token).run.Only allowed := by
  refine Attempt.only_ofResult_bind fun hint peeked => ?_
  refine Attempt.only_bind (only_currentSecret (look hint peeked)) fun found => ?_
  cases found with
  | none => exact only_report quiet
  | some secret =>
    refine Attempt.only_bind (Attempt.only_tryCatch (Attempt.only_ofResult _) (only_reject quiet))
      fun claims => ?_
    exact revokeSubject_only quiet (drop hint peeked)

end

theorem issue_frugal {exchanges : List Exchange} {rest : Operation (Except AuthError String)}
    (follows : (authority.issue subject permissions).run.Follows exchanges rest) :
    Frugal exchanges := by
  -- Where it is underway, it is on the way of some whole issue.
  obtain ⟨later, value, yields⟩ := follows.exists_yields
  refine Frugal.of_append (?_ : Frugal (exchanges ++ later))
  rcases issue_path yields with ⟨none, -⟩ | ⟨reason, others, same, quiet, -⟩ |
    ⟨-, fresh, answer, others, same, quiet, -⟩
  · rw [none]
    exact frugal_of_none (by simp)
  · rw [same]
    refine frugal_of_none ?_
    intro exchange member
    rcases List.mem_cons.mp member with rfl | behind
    · exact not_false
    · exact (quiet exchange behind).not_claims
  · rw [same]
    exact frugal_claim fun exchange member => (quiet exchange member).not_claims

/-- While a token is issued, secrets are drawn at the length of the settings, and the store is asked
for nothing but a claim for the subject. -/
theorem issue_asks {exchanges : List Exchange} {rest : Operation (Except AuthError String)}
    (follows : (authority.issue subject permissions).run.Follows exchanges rest) :
    ∀ exchange ∈ exchanges, exchange.query.Quiet ∨
      exchange.query = .fresh authority.settings.secretLength.toNat ∨
      ∃ fresh, exchange.query = .store (.claim (Secret.key subject) fresh
        authority.settings.secretTtlSpan) authority.settings.storeTimeoutSpan := by
  have only : (authority.issue subject permissions).run.Only fun query => query.Quiet ∨
      query = .fresh authority.settings.secretLength.toNat ∨
      ∃ fresh, query = .store (.claim (Secret.key subject) fresh
        authority.settings.secretTtlSpan) authority.settings.storeTimeoutSpan :=
    issue_only (fun _ quiet => .inl quiet) (.inr (.inl rfl))
      fun fresh => .inr (.inr ⟨fresh, rfl⟩)
  exact only.of_mem follows

/-- Nobody but who issues a token claims a secret. -/
theorem perform_only_of_ne_issue {request : Request}
    (other : ¬ ∃ subject permissions, request = .issue subject permissions) :
    (authority.perform request).run.Only (¬ ·.Claims) := by
  have quiet : ∀ query : Query, query.Quiet → ¬ query.Claims := fun _ quiet => quiet.not_claims
  cases request with
  | issue subject permissions => exact absurd ⟨subject, permissions, rfl⟩ other
  | verify token required => exact verify_only quiet fun _ _ => not_false
  | revoke token => exact revoke_only quiet (fun _ _ => not_false) fun _ _ => not_false
  | revokeSubject subject => exact revokeSubject_only quiet not_false

/-- A claim is made while a token is issued for the subject of its key. -/
theorem issued_of_claim {request : Request} {exchanges : List Exchange}
    {rest : Operation (Except AuthError request.Answer)} {key : String} {fresh : Secret}
    {ttl within : Span} {answer : Except AuthError Secret}
    (follows : (authority.perform request).run.Follows exchanges rest)
    (member : ⟨.store (.claim key fresh ttl) within, answer⟩ ∈ exchanges) :
    ∃ subject permissions, request = .issue subject permissions ∧ key = Secret.key subject := by
  by_cases issues : ∃ subject permissions, request = .issue subject permissions
  · obtain ⟨subject, permissions, rfl⟩ := issues
    rcases issue_asks follows _ member with quiet | drawn | ⟨secret, asked⟩
    · exact quiet.elim
    · cases drawn
    · cases asked
      exact ⟨subject, permissions, rfl, rfl⟩
  · exact absurd trivial ((perform_only_of_ne_issue issues).of_mem follows _ member)

/-- However far a call has come, it has claimed at most once, and only what it has drawn. -/
theorem perform_frugal {request : Request} {exchanges : List Exchange}
    {rest : Operation (Except AuthError request.Answer)}
    (follows : (authority.perform request).run.Follows exchanges rest) : Frugal exchanges := by
  by_cases issues : ∃ subject permissions, request = .issue subject permissions
  · obtain ⟨subject, permissions, rfl⟩ := issues
    exact issue_frugal follows
  · exact frugal_of_none ((perform_only_of_ne_issue issues).of_mem follows)

/-- What a call claims it has drawn, at the length of its settings. -/
theorem drawn_of_claim {request : Request} {exchanges : List Exchange}
    {rest : Operation (Except AuthError request.Answer)} {key : String} {fresh : Secret}
    {ttl within : Span} {answer : Except AuthError Secret}
    (follows : (authority.perform request).run.Follows exchanges rest)
    (claimed : ⟨.store (.claim key fresh ttl) within, answer⟩ ∈ exchanges) :
    authority.draw (.ok fresh) ∈ exchanges := by
  obtain ⟨front, back, rfl⟩ := List.append_of_mem claimed
  obtain ⟨⟨length, drawn⟩, -⟩ := perform_frugal follows front key fresh ttl within answer back rfl
  have drawn := List.mem_append_left
    (⟨.store (.claim key fresh ttl) within, answer⟩ :: back) drawn
  obtain ⟨subject, permissions, rfl, -⟩ := issued_of_claim follows claimed
  rcases issue_asks follows _ drawn with quiet | same | ⟨other, same⟩
  · exact quiet.elim
  · cases same
    exact drawn
  · cases same

end Authority
end Signet
