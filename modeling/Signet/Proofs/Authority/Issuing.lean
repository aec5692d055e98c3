import Signet.Proofs.Authority.Atomicity
import Signet.Proofs.Authority.Patience
import Signet.Proofs.Authority.Verdict
import Signet.Proofs.Deployment.Execution

/-! What issuing a token comes to, exactly. Nothing is drawn for nobody, and a draw that fails makes no
call; else the answer to one claim decides, since what is asked for can always be stated and signed,
whatever the time is. Settings may ask for secrets that are too long to be laid out, though; then
nobody who is named is issued a token or told why. -/

namespace Signet.Authority

variable {authority : Authority} {subject token : String} {permissions : Permission}
  {exchanges : List Exchange} {moment : Timestamp}

/-- A token that states what has been asked for, from a moment on for the lifetime of a token or to the
end of all time, signed with a secret. -/
structure Issued (authority : Authority) (subject : String) (permissions : Permission)
    (moment : Timestamp) (secret : Secret) (token : String) : Prop where
  stated : ∃ expiresAt : Timestamp,
    expiresAt.toNat =
      min (moment.toNat + authority.settings.tokenLifetime.toNat) (UInt64.size - 1) ∧
    Token.peek token =
      .ok ⟨subject, permissions, moment, moment, expiresAt, authority.settings.issuer⟩
  tagged : Token.Tagged token secret

/-- What has been asked on the way to each result. -/
inductive Issues (authority : Authority) (subject : String) (permissions : Permission)
    (moment : Timestamp) : List Exchange → Except AuthError String → Prop where
  | unnamed (empty : subject = "") :
    Issues authority subject permissions moment [] (.error .missingSubject)
  | undrawn {reason : String} {others : List Exchange} (named : subject ≠ "")
      (quiet : ∀ exchange ∈ others, exchange.query.Quiet) :
    Issues authority subject permissions moment (authority.draw (.error reason) :: others)
      (.error .issuanceFailed)
  | refused {fresh : Secret} {failure : StoreError} {others : List Exchange} (named : subject ≠ "")
      (quiet : ∀ exchange ∈ others, exchange.query.Quiet) :
    Issues authority subject permissions moment (authority.draw (.ok fresh) ::
      authority.claim subject fresh (.error (.store failure)) :: others) (.error .issuanceFailed)
  | lost {fresh : Secret} {error : AuthError} {others : List Exchange} (named : subject ≠ "")
      (unanswered : error = .timeout ∨ error = .cancelled)
      (quiet : ∀ exchange ∈ others, exchange.query.Quiet) :
    Issues authority subject permissions moment (authority.draw (.ok fresh) ::
      authority.claim subject fresh (.error error) :: others) (.error error)
  | issued {fresh secret : Secret} {token : String} {others : List Exchange} (named : subject ≠ "")
      (quiet : ∀ exchange ∈ others, exchange.query.Quiet)
      (issued : authority.Issued subject permissions moment secret token) :
    Issues authority subject permissions moment (authority.draw (.ok fresh) ::
      authority.claim subject fresh (.ok secret) :: others) (.ok token)

/-- Signed claims are those that have been issued. -/
private theorem issued_of_encode {claims : Claims} {secret : Secret}
    (made : Claims.issue subject permissions moment authority.settings.tokenLifetime
      authority.settings.issuer = .ok claims)
    (encoded : authority.codec.encode claims secret = .ok token) (named : subject ≠ "") :
    authority.Issued subject permissions moment secret token := by
  obtain rfl := Claims.issue_eq_ok made
  exact ⟨⟨_, toNat_saturatingAdd .., Token.Codec.peek_encode encoded named⟩,
    Token.Codec.tagged_of_encode encoded⟩

section

variable {answer other : Except AuthError Secret} {drawn : Except String Secret}
  {fresh offered : Secret} {others : List Exchange}
  (quiet : ∀ exchange ∈ others, exchange.query.Quiet)
include quiet

private theorem claim_not_mem_of_undrawn :
    authority.claim subject offered other ∉ authority.draw drawn :: others := by
  intro member
  rcases List.mem_cons.mp member with same | behind
  · cases same
  · exact quiet _ behind

/-- Of all that is asked, only one claim calls the store. -/
theorem claim_mem_iff : authority.claim subject offered other ∈
    authority.draw drawn :: authority.claim subject fresh answer :: others ↔
      offered = fresh ∧ other = answer := by
  constructor
  · intro member
    rcases List.mem_cons.mp member with same | later
    · cases same
    rcases List.mem_cons.mp later with same | behind
    · cases same
      exact ⟨rfl, rfl⟩
    · exact (quiet _ behind).elim
  · rintro ⟨rfl, rfl⟩
    exact List.mem_cons_of_mem _ (List.mem_cons_self ..)

private theorem exists_claim_mem_iff : (∃ offered, authority.claim subject offered other ∈
    authority.draw drawn :: authority.claim subject fresh answer :: others) ↔ other = answer := by
  constructor
  · rintro ⟨offered, member⟩
    exact ((claim_mem_iff quiet).mp member).2
  · rintro rfl
    exact ⟨fresh, (claim_mem_iff quiet).mpr ⟨rfl, rfl⟩⟩

end

/-- Once its claim is answered with a secret, issuing a token succeeds. -/
theorem exists_ok_of_claimed {fresh secret : Secret} {result : Except AuthError String}
    (yields : (authority.issue subject permissions).run.Yields exchanges result)
    (claimed : authority.claim subject fresh (.ok secret) ∈ exchanges) :
    ∃ token, result = .ok token := by
  rcases issue_path yields with ⟨rfl, -, -⟩ | ⟨reason, others, rfl, quiet, -⟩ |
    ⟨named, drawn, answer, others, rfl, quiet, -, signed⟩
  · cases claimed
  · exact absurd claimed (claim_not_mem_of_undrawn quiet)
  · obtain ⟨rfl, rfl⟩ := (claim_mem_iff quiet).mp claimed
    obtain ⟨told, signing, -, signs⟩ := signed secret rfl
    exact sign_total named signs

/-- Whatever answers its queries, issuing a token ends in one of these ways, if calls fail like calls to
a store. -/
theorem issues_of_yields {result : Except AuthError String}
    (stamped : ∀ stamp, authority.Stamps exchanges stamp → stamp = moment)
    (fails : ∀ exchange ∈ exchanges, ∀ error,
      exchange.query.failure? exchange.answer = some error →
        (∃ failure, error = .store failure) ∨ error = .timeout ∨ error = .cancelled)
    (yields : (authority.issue subject permissions).run.Yields exchanges result) :
    authority.Issues subject permissions moment exchanges result := by
  by_cases named : subject = ""
  · subst named
    rw [issue_empty] at yields
    obtain ⟨rfl, rfl⟩ := Operation.yields_pure_iff.mp yields
    exact .unnamed rfl
  cases result with
  | ok token =>
    obtain ⟨-, fresh, secret, others, rfl, quiet, stamp, claims, stamps, made, encoded⟩ :=
      issue_ok_path yields
    obtain rfl := stamped stamp stamps
    exact .issued named quiet (issued_of_encode made encoded named)
  | error error =>
    rcases issue_path yields with ⟨-, -, empty⟩ | ⟨reason, others, rfl, quiet, same⟩ |
      ⟨-, fresh, answer, others, rfl, quiet, failed, -⟩
    · exact absurd empty named
    · obtain rfl := Except.error.inj same
      exact .undrawn named quiet
    cases answer with
    | ok secret =>
      obtain ⟨token, same⟩ := exists_ok_of_claimed yields ((claim_mem_iff quiet).mpr ⟨rfl, rfl⟩)
      cases same
    | error cause =>
      obtain rfl := Except.error.inj (failed cause rfl)
      rcases fails (authority.claim subject fresh (.error cause)) (by simp) cause rfl with
        ⟨failure, rfl⟩ | rfl | rfl
      · exact .refused named quiet
      · exact .lost named (.inl rfl) quiet
      · exact .lost named (.inr rfl) quiet

/-- What issuing a token comes to, with what has been asked and what a draw comes to. -/
structure Outcomes (authority : Authority) (subject : String) (permissions : Permission)
    (moment : Timestamp) (drawn : Except String Secret) (exchanges : List Exchange)
    (result : Except AuthError String) : Prop where
  table : authority.Issues subject permissions moment exchanges result
  missing : result = .error .missingSubject ↔ subject = ""
  unasked : subject = "" → exchanges = []
  failed : result = .error .issuanceFailed ↔ subject ≠ "" ∧
    ((∃ reason, drawn = .error reason) ∨
      ∃ fresh failure, authority.claim subject fresh (.error (.store failure)) ∈ exchanges)
  /-- Where there is no randomness, no store call is made. -/
  undrawn : ∀ reason, drawn = .error reason → ∀ exchange ∈ exchanges, exchange.query.calls = 0
  timedOut : result = .error .timeout ↔
    ∃ fresh, authority.claim subject fresh (.error .timeout) ∈ exchanges
  cancelled : result = .error .cancelled ↔
    ∃ fresh, authority.claim subject fresh (.error .cancelled) ∈ exchanges
  issued : ∀ token, result = .ok token → ∃ fresh secret,
    authority.claim subject fresh (.ok secret) ∈ exchanges ∧
      authority.Issued subject permissions moment secret token
  only : ∀ error, result = .error error → error = .missingSubject ∨ error = .issuanceFailed ∨
    error = .timeout ∨ error = .cancelled

/-- The table of results says when there is each of them. -/
theorem Issues.outcomes {drawn : Except String Secret} {result : Except AuthError String}
    (table : authority.Issues subject permissions moment exchanges result)
    (first : ∀ answer others, exchanges = authority.draw answer :: others → answer = drawn) :
    authority.Outcomes subject permissions moment drawn exchanges result := by
  cases table with
  | unnamed empty =>
    exact
      { table := .unnamed empty
        missing := iff_of_true rfl empty
        unasked := fun _ => rfl
        failed := iff_of_false nofun fun both => both.1 empty
        undrawn := fun _ _ exchange member => nomatch member
        timedOut := iff_of_false nofun nofun
        cancelled := iff_of_false nofun nofun
        issued := nofun
        only := fun _ same => .inl (Except.error.inj same).symm }
  | undrawn named quiet =>
    obtain rfl := first _ _ rfl
    refine
      { table := .undrawn named quiet
        missing := iff_of_false nofun named
        unasked := fun empty => absurd empty named
        failed := iff_of_true rfl ⟨named, .inl ⟨_, rfl⟩⟩
        undrawn := fun _ _ exchange member => ?_
        timedOut := iff_of_false nofun fun ⟨_, member⟩ => claim_not_mem_of_undrawn quiet member
        cancelled := iff_of_false nofun fun ⟨_, member⟩ => claim_not_mem_of_undrawn quiet member
        issued := nofun
        only := fun _ same => .inr (.inl (Except.error.inj same).symm) }
    rcases List.mem_cons.mp member with rfl | behind
    · rfl
    · exact (quiet exchange behind).calls_eq_zero
  | refused named quiet =>
    obtain rfl := first _ _ rfl
    exact
      { table := .refused named quiet
        missing := iff_of_false nofun named
        unasked := fun empty => absurd empty named
        failed := iff_of_true rfl
          ⟨named, .inr ⟨_, _, (claim_mem_iff quiet).mpr ⟨rfl, rfl⟩⟩⟩
        undrawn := nofun
        timedOut := iff_of_false nofun fun found => nomatch (exists_claim_mem_iff quiet).mp found
        cancelled := iff_of_false nofun fun found => nomatch (exists_claim_mem_iff quiet).mp found
        issued := nofun
        only := fun _ same => .inr (.inl (Except.error.inj same).symm) }
  | @lost fresh error others named unanswered quiet =>
    obtain rfl := first _ _ rfl
    have told : ∀ cause : AuthError, (.error error : Except AuthError String) = .error cause ↔
        ∃ offered, authority.claim subject offered (.error cause) ∈ authority.draw (.ok fresh) ::
          authority.claim subject fresh (.error error) :: others := by
      intro cause
      rw [exists_claim_mem_iff quiet, Except.error.injEq, Except.error.injEq, eq_comm]
    have other : error ≠ .missingSubject ∧ error ≠ .issuanceFailed ∧
        ∀ failure, error ≠ .store failure := by
      rcases unanswered with rfl | rfl
      · exact ⟨nofun, nofun, nofun⟩
      · exact ⟨nofun, nofun, nofun⟩
    refine
      { table := .lost named unanswered quiet
        missing := iff_of_false (fun same => other.1 (Except.error.inj same)) named
        unasked := fun empty => absurd empty named
        failed := iff_of_false (fun same => other.2.1 (Except.error.inj same)) ?_
        undrawn := nofun
        timedOut := told .timeout
        cancelled := told .cancelled
        issued := nofun
        only := fun _ same => Except.error.inj same ▸ .inr (.inr unanswered) }
    rintro ⟨-, ⟨reason, same⟩ | ⟨offered, failure, member⟩⟩
    · cases same
    · have same := ((claim_mem_iff quiet).mp member).2
      exact other.2.2 failure (Except.error.inj same).symm
  | issued named quiet issued =>
    obtain rfl := first _ _ rfl
    refine
      { table := .issued named quiet issued
        missing := iff_of_false nofun named
        unasked := fun empty => absurd empty named
        failed := iff_of_false nofun ?_
        undrawn := nofun
        timedOut := iff_of_false nofun fun found => nomatch (exists_claim_mem_iff quiet).mp found
        cancelled := iff_of_false nofun fun found => nomatch (exists_claim_mem_iff quiet).mp found
        issued := fun token same => ?_
        only := nofun }
    · rintro ⟨-, ⟨reason, same⟩ | ⟨offered, failure, member⟩⟩
      · cases same
      · cases ((claim_mem_iff quiet).mp member).2
    · cases same
      exact ⟨_, _, (claim_mem_iff quiet).mpr ⟨rfl, rfl⟩, issued⟩

section

variable {σ : Type} [SecretStore σ] {facilities : Deployment.Facilities σ}
  {deployment : Deployment σ}

/-- Whatever the clock says, the draw comes to, the store answers and whenever it is cancelled, a run has
just these outcomes. -/
theorem outcomes_of_attempt (authority : Authority) (subject : String) (permissions : Permission)
    (facilities : Deployment.Facilities σ) (deployment : Deployment σ) :
    authority.Outcomes subject permissions (authority.stamp.getD deployment.now)
    (deployment.fresh facilities authority.settings.secretLength.toNat).1
    ((authority.issue subject permissions).run.path (Deployment.answer facilities) deployment)
    (deployment.attempt facilities (authority.issue subject permissions)).1 := by
  have given := Operation.given_path (Deployment.answer facilities)
    (authority.issue subject permissions).run deployment
  refine (issues_of_yields (fun stamp stamps => stamps.eq_now)
    (fun exchange member error failed => Deployment.failure_of_mem_path member failed)
    (Operation.yields_path _ _ _)).outcomes ?_
  intro answer others path
  rw [path] at given
  exact given.1

/-- Whoever issues a token breaks off: for want of room for a secret, before anything is drawn, or
since the answer of the store to the claim of the secret that was drawn cannot be read on. -/
def BreaksOff (authority : Authority) (subject : String) (facilities : Deployment.Facilities σ)
    (deployment : Deployment σ) : Prop :=
  subject ≠ "" ∧ (Secret.greatestLength < authority.settings.secretLength.toNat ∨
    ∃ fresh middle,
      deployment.fresh facilities authority.settings.secretLength.toNat = (.ok fresh, middle) ∧
      middle.breaks facilities
        (.claim (Secret.key subject) fresh authority.settings.secretTtlSpan)
        authority.settings.storeTimeoutSpan = true)

theorem fits_of_quiet (query : Query) (quiet : query.Quiet) : query.Fits := by
  cases query with
  | fresh length => cases quiet
  | time | store _ _ | verification _ | report _ => trivial

theorem respond_of_quiet {query : Query} (quiet : query.Quiet) :
    (Deployment.respond facilities query deployment).1 ≠ none := by
  cases query with
  | fresh length => cases quiet
  | time | report event => nofun
  | store call within => cases quiet
  | verification credential => cases quiet

/-- Of all that is asked on the way, only the draw and the claim can be left without an answer. -/
theorem execute_issue_eq_none_iff :
    (deployment.execute facilities (authority.issue subject permissions).run).1 = none ↔
      authority.BreaksOff subject facilities deployment := by
  have calm : ∀ {others : List Exchange} {later : Deployment σ},
      (∀ exchange ∈ others, exchange.query.Quiet) →
        ¬ Operation.BreaksAlong (Deployment.respond facilities) (Deployment.answer facilities)
          later others := fun quiet =>
    Operation.not_breaksAlong fun exchange member _ => respond_of_quiet (quiet exchange member)
  rw [Deployment.execute, Operation.execute_eq_none_iff Deployment.agrees_respond, BreaksOff]
  by_cases named : subject = ""
  · subst named
    exact iff_of_false id fun both => both.1 rfl
  have given := Operation.given_path (Deployment.answer facilities)
    (authority.issue subject permissions).run deployment
  rcases issue_path (Operation.yields_path (Deployment.answer facilities)
    (authority.issue subject permissions).run deployment) with ⟨-, -, empty⟩ |
    ⟨reason, others, path, quiet, -⟩ | ⟨-, fresh, answer, others, path, quiet, -, -⟩
  · exact absurd empty named
  · rw [path] at given ⊢
    refine ((or_iff_left (calm quiet)).trans Deployment.respond_fresh_eq_none_iff).trans ?_
    refine ⟨fun long => ⟨named, .inl long⟩, fun broken => broken.2.resolve_right ?_⟩
    rintro ⟨fresh, middle, drawn, -⟩
    cases given.1.trans (congrArg Prod.fst drawn)
  · rw [path] at given ⊢
    refine (or_congr Deployment.respond_fresh_eq_none_iff
      ((or_iff_left (calm quiet)).trans Deployment.respond_store_eq_none_iff)).trans ?_
    refine ⟨fun broken => ⟨named, broken.imp_right fun unread => ⟨fresh, _, ?_, unread⟩⟩,
      fun broken => broken.2.imp_right ?_⟩
    · exact Prod.ext given.1.symm rfl
    · rintro ⟨other, middle, drawn, unread⟩
      obtain rfl := Except.ok.inj (given.1.trans (congrArg Prod.fst drawn))
      obtain rfl := congrArg Prod.snd drawn
      exact unread

/-- A store that is near is read, so that only the length of the secret is to blame. -/
theorem breaksOff_iff_of_near
    (near : ∀ (store : σ) now call, SecretStore.breaks store now call = false) :
    authority.BreaksOff subject facilities deployment ↔
      subject ≠ "" ∧ Secret.greatestLength < authority.settings.secretLength.toNat := by
  refine and_congr_right fun named => or_iff_left ?_
  rintro ⟨fresh, middle, -, unread⟩
  cases (Deployment.breaks_of_near near).symm.trans unread

theorem execute_issue_of_overlong (named : subject ≠ "")
    (long : Secret.greatestLength < authority.settings.secretLength.toNat) :
    deployment.execute facilities (authority.issue subject permissions).run =
      (none, deployment) := by
  rw [issue_eq_sign named, Attempt.run_bind, Attempt.run_tryCatch]
  show (Operation.ask (.fresh authority.settings.secretLength.toNat) _).execute _ _ = _
  rw [Operation.execute, Deployment.respond_fresh_of_overlong long]

end

/-- Whatever the clock says, the draw comes to, the store answers and whenever it is cancelled, issuing a
token has just these outcomes, unless it breaks off. For want of room for the secret, it breaks off
before anything is drawn or the store is called. -/
theorem issue_outcomes {σ : Type} [SecretStore σ] (authority : Authority) (subject : String)
    (permissions : Permission) (facilities : Deployment.Facilities σ) (deployment : Deployment σ) :
    ((deployment.execute facilities (authority.issue subject permissions).run).1 = none ↔
      authority.BreaksOff subject facilities deployment) ∧
    (∀ result after,
      deployment.execute facilities (authority.issue subject permissions).run =
        (some result, after) →
      authority.Outcomes subject permissions (authority.stamp.getD deployment.now)
        (deployment.fresh facilities authority.settings.secretLength.toNat).1
        ((authority.issue subject permissions).run.path (Deployment.answer facilities) deployment)
        result) ∧
    (subject ≠ "" → Secret.greatestLength < authority.settings.secretLength.toNat →
      deployment.execute facilities (authority.issue subject permissions).run =
        (none, deployment)) := by
  refine ⟨execute_issue_eq_none_iff, ?_, execute_issue_of_overlong⟩
  intro result after ended
  have run : deployment.attempt facilities (authority.issue subject permissions) =
      (result, after) := Deployment.run_of_execute ended
  have outcomes := outcomes_of_attempt authority subject permissions facilities deployment
  rwa [run] at outcomes

/-- Its settings pass, though there is no room for the secrets that they ask for. -/
def sampleOverlong : Authority :=
  ⟨{ Settings.standard with secretLength := 9223372036854775808 }, ⟨"tokenauth", 5, .hs256⟩, none⟩

/-- With the shortest secrets that settings may ask for, issuing a token does not break off; with secrets
of 2⁶³ bytes it does, and nothing has been drawn. -/
theorem issue_outcomes_sample :
    (∃ result after, Deployment.sampleStart.execute (sampleOccasion 7).facilities
        (sample.issue "ann" .readAccount).run = (some result, after) ∧
      sample.Outcomes "ann" .readAccount 1000 (.ok ⟨List.replicate 32 7⟩)
        ((sample.issue "ann" .readAccount).run.path
          (Deployment.answer (sampleOccasion 7).facilities) Deployment.sampleStart) result) ∧
    Deployment.sampleStart.execute (sampleOccasion 7).facilities
      (sampleOverlong.issue "ann" .readAccount).run = (none, Deployment.sampleStart) := by
  obtain ⟨breaks, comes, -⟩ := issue_outcomes sample "ann" .readAccount
    (sampleOccasion 7).facilities Deployment.sampleStart
  refine ⟨?_, (issue_outcomes sampleOverlong "ann" .readAccount (sampleOccasion 7).facilities
    Deployment.sampleStart).2.2 (by decide) (by decide)⟩
  rcases ended : Deployment.sampleStart.execute (sampleOccasion 7).facilities
    (sample.issue "ann" .readAccount).run with ⟨_ | result, after⟩
  · have broken := (breaksOff_iff_of_near fun _ _ _ => rfl).mp
      (breaks.mp (congrArg Prod.fst ended))
    exact absurd broken.2 (by decide)
  · exact ⟨result, after, rfl, comes result after ended⟩

/-- Settings that pass ask for secrets of 2⁶³ bytes. An authority is made of them, and a subject is
named, but issuing a token comes to nothing at all. -/
theorem overlong_secret_breaks_off :
    sampleOverlong.settings.validate = .ok () ∧
    Authority.ofSettings sampleOverlong.settings = .ok sampleOverlong ∧
    ¬ ∃ result after, Deployment.sampleStart.execute (sampleOccasion 7).facilities
      (sampleOverlong.issue "ann" .readAccount).run = (some result, after) := by
  refine ⟨rfl, rfl, ?_⟩
  rintro ⟨result, after, ended⟩
  rw [execute_issue_of_overlong (by decide) (by decide)] at ended
  cases ended

end Signet.Authority
