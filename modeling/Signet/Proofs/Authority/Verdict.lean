import Signet.Proofs.Authority.Claiming
import Signet.Proofs.Authority.Trust
import Signet.Proofs.Deployment.Course
import Signet.Proofs.Token.RoundTrip

/-! The answer to a verification where nothing stands in its way. As long as the secret that signed
a token is visible, the window of the token alone decides whether it is accepted. -/

namespace Signet

namespace Deployment

variable {σ α β : Type} [SecretStore σ] (facilities : Facilities σ)

theorem attempt_bind (first : Attempt α) (next : α → Attempt β) (deployment : Deployment σ) :
    deployment.attempt facilities (first >>= next) =
      match deployment.attempt facilities first with
      | (.ok value, after) => after.attempt facilities (next value)
      | (.error error, after) => (.error error, after) := by
  simp only [attempt, run, Attempt.run_run_bind]
  rcases Operation.run (answer facilities) first.run deployment with ⟨error | value, after⟩ <;> rfl

theorem attempt_tryCatch (first : Attempt α) (handler : AuthError → Attempt α)
    (deployment : Deployment σ) :
    deployment.attempt facilities (tryCatch first handler) =
      match deployment.attempt facilities first with
      | (.ok value, after) => (.ok value, after)
      | (.error error, after) => after.attempt facilities (handler error) := by
  simp only [attempt, run, Attempt.run_run_tryCatch]
  rcases Operation.run (answer facilities) first.run deployment with ⟨error | value, after⟩ <;> rfl

theorem attempt_lift (operation : Operation α) (deployment : Deployment σ) :
    deployment.attempt facilities (liftM operation) =
      (.ok (deployment.run facilities operation).1, (deployment.run facilities operation).2) :=
  Attempt.run_run_lift ..

theorem attempt_ofResult (result : Except AuthError α) (deployment : Deployment σ) :
    deployment.attempt facilities (Attempt.ofResult result) = (result, deployment) := rfl

theorem attempt_pure (value : α) (deployment : Deployment σ) :
    deployment.attempt facilities (pure value) = (.ok value, deployment) := rfl

theorem awaited_pass (now : Instant) (within : Span) :
    awaited .never now within .pass = ⟨now, .met .pass⟩ := by
  have instant : Option.filter (· ≤ within) (some 0) = some 0 := by simp [Option.filter]
  simp only [awaited, Trouble.wait, instant, Option.map_some, Nat.add_zero]

/-- A call that meets no trouble reaches the store at once. -/
theorem call_pass {facilities : Facilities Store} {deployment : Deployment Store}
    {call : StoreCall} (never : facilities.cancellation = .never)
    (calm : deployment.troubles.next call = .pass) (within : Span) :
    (deployment.call facilities call within).1 = deployment.world.answer call ∧
      (deployment.call facilities call within).2.now = deployment.now := by
  simp only [Deployment.call, start, never, calm, awaited_pass, reduceCtorEq, ↓reduceIte, finish]
  exact ⟨rfl, rfl⟩

end Deployment

namespace Authority

/-- What is stamped in a deployment is stamped with the time of its clock, or with that of the
authority if it has one of its own. -/
theorem Stamps.eq_now {σ α : Type} [SecretStore σ] {authority : Authority}
    {facilities : Deployment.Facilities σ} {deployment : Deployment σ} {operation : Operation α}
    {moment : Timestamp}
    (stamps : authority.Stamps (operation.path (Deployment.answer facilities) deployment) moment) :
    moment = authority.stamp.getD deployment.now := by
  rcases stamps with stamped | ⟨unstamped, read⟩
  · rw [stamped, Option.getD_some]
  · rw [unstamped, Option.getD_none]
    exact Deployment.time_of_mem_path read

variable {authority : Authority} {subject token : String} {permissions required : Permission}
  {facilities : Deployment.Facilities Store} {deployment : Deployment Store}

private theorem attempt_currentSecret {found : Option Secret}
    (never : facilities.cancellation = .never)
    (calm : deployment.troubles.next (.get (Secret.key subject)) = .pass)
    (held : deployment.world.held (Secret.key subject) = found) :
    ∃ after, deployment.attempt facilities (authority.currentSecret subject) =
      (.ok found, after) ∧ after.now = deployment.now := by
  obtain ⟨answered, timed⟩ := Deployment.call_pass never calm authority.settings.storeTimeoutSpan
  rw [World.answer_get, held] at answered
  refine ⟨_, ?_, timed⟩
  have asked : deployment.attempt facilities (authority.call (.get (Secret.key subject))) =
      (.ok found, (deployment.call facilities (.get (Secret.key subject))
        authority.settings.storeTimeoutSpan).2) := Prod.ext answered rfl
  rw [currentSecret, Deployment.attempt_bind, asked]
  cases found with
  | none => rfl
  | some secret =>
    have full := World.held_full held
    simp only [Deployment.attempt_pure, Option.filter, full, Bool.not_false, ↓reduceIte]

private theorem attempt_accept {secret : Secret} {claims hint : Claims}
    (signed : authority.codec.decodeIgnoringTime token secret = .ok claims) :
    deployment.attempt facilities (authority.accept token hint secret) =
      ((authority.codec.checkWindow deployment.now claims).map fun _ => claims, deployment) := by
  have asked : deployment.run facilities Operation.time = (deployment.now, deployment) := rfl
  rw [accept, Deployment.attempt_bind, Deployment.attempt_lift, asked]
  simp only [Token.Codec.decode_of_ignoringTime signed]
  rcases authority.codec.checkWindow_cases deployment.now claims with window | window | window <;>
    rw [window] <;> rfl

/-- While a secret that has signed it is visible, whether a token is accepted is up to its window
alone. -/
theorem attempt_verify_of_signed {secret : Secret} {claims : Claims}
    (never : facilities.cancellation = .never)
    (calm : deployment.troubles.next (.get (Secret.key claims.subject)) = .pass)
    (held : deployment.world.held (Secret.key claims.subject) = some secret)
    (signed : authority.codec.decodeIgnoringTime token secret = .ok claims) :
    (deployment.attempt facilities (authority.verify token required)).1 =
      (authority.codec.checkWindow deployment.now claims).map fun _ =>
        claims.permissions.hasAll required := by
  have peeked := (Token.Codec.decodeIgnoringTime_eq_ok_iff.mp signed).1
  obtain ⟨after, read, timed⟩ : ∃ after, deployment.attempt facilities
      (authority.currentSecret claims.subject) = (.ok (some secret), after) ∧
      after.now = deployment.now := attempt_currentSecret never calm held
  have accepted : after.attempt facilities (authority.accept token claims secret) = _ :=
    attempt_accept signed
  rw [verify, Deployment.attempt_bind, Deployment.attempt_ofResult, peeked]
  simp only
  rw [Deployment.attempt_bind, read]
  simp only
  rw [Deployment.attempt_bind, rejecting, Deployment.attempt_tryCatch, accepted, timed]
  rcases authority.codec.checkWindow_cases deployment.now claims with window | window | window <;>
    rw [window] <;> rfl

/-- While its secret is visible, whether an issued token is accepted is up to its window alone. -/
theorem attempt_verify {secret : Secret} {claims : Claims}
    (never : facilities.cancellation = .never)
    (calm : deployment.troubles.next (.get (Secret.key claims.subject)) = .pass)
    (held : deployment.world.held (Secret.key claims.subject) = some secret)
    (encoded : authority.codec.encode claims secret = .ok token)
    (issuer : claims.issuer = authority.codec.issuer) :
    (deployment.attempt facilities (authority.verify token required)).1 =
      (authority.codec.checkWindow deployment.now claims).map fun _ =>
        claims.permissions.hasAll required :=
  attempt_verify_of_signed never calm held (Token.Codec.decodeIgnoringTime_encode encoded issuer)

/-- Where nothing goes wrong, whoever reads the secret of a subject finds everything again as it was. -/
theorem attempt_currentSecret_of_calm (never : facilities.cancellation = .never)
    (calm : deployment.troubles = {}) : ∃ after,
    deployment.attempt facilities (authority.currentSecret subject) =
      (.ok (deployment.world.held (Secret.key subject)), after) ∧
      after.world = deployment.world ∧ after.now = deployment.now ∧ after.troubles = {} := by
  have met : deployment.troubles.next (.get (Secret.key subject)) = .pass := by rw [calm]; rfl
  obtain ⟨after, read, -⟩ : ∃ after, deployment.attempt facilities
      (authority.currentSecret subject) = (.ok (deployment.world.held (Secret.key subject)), after) ∧
      after.now = deployment.now := attempt_currentSecret never met rfl
  have apart : (authority.currentSecret subject).run.Only Query.Apart := only_currentSecret trivial
  have silent : (authority.currentSecret subject).run.Only (¬ ·.Writes) :=
    only_currentSecret not_false
  have still := Deployment.still_run never calm apart silent
  have ended : (deployment.run facilities (authority.currentSecret subject).run).2 = after :=
    congrArg Prod.snd read
  rw [ended] at still
  exact ⟨after, read, still⟩

/-- A rejection is reported, and else nothing is done. -/
theorem attempt_reject {α : Type} (error : AuthError) : ∃ after,
    deployment.attempt facilities (reject subject error : Attempt α) = (.error error, after) ∧
      after.world = deployment.world := by
  unfold reject
  dsimp only
  split
  · exact ⟨_, rfl, rfl⟩
  · exact ⟨_, rfl, rfl⟩

/-- Reading the secret once more changes nothing, where nobody has changed the secret meanwhile. -/
private theorem attempt_accept_of_strange {hint : Claims} {live : Secret}
    (never : facilities.cancellation = .never) (calm : deployment.troubles = {})
    (held : deployment.world.held (Secret.key hint.subject) = some live)
    (strange : authority.codec.decode deployment.now token live = .error .badSignature) :
    (deployment.attempt facilities (authority.accept token hint live)).1 =
      .error .badSignature := by
  have asked : deployment.run facilities Operation.time = (deployment.now, deployment) := rfl
  rw [accept, Deployment.attempt_bind, Deployment.attempt_lift, asked]
  simp only [strange]
  split
  case isTrue young =>
    obtain ⟨after, read, -⟩ : ∃ after, deployment.attempt facilities
        (authority.currentSecret hint.subject) = (.ok (deployment.world.held _), after) ∧ _ :=
      attempt_currentSecret_of_calm never calm
    rw [held] at read
    rw [reverify, Deployment.attempt_bind, read]
    simp only [ne_eq, not_true_eq_false, ↓reduceIte]
    rfl
  case isFalse old => rfl

/-- While a secret is visible that has not signed it, the signature of a token does not fit. -/
theorem attempt_verify_of_strange {hint : Claims} {live : Secret}
    (never : facilities.cancellation = .never) (calm : deployment.troubles = {})
    (peeked : Token.peek token = .ok hint)
    (held : deployment.world.held (Secret.key hint.subject) = some live)
    (strange : ¬ Token.Tagged token live) :
    (deployment.attempt facilities (authority.verify token required)).1 = .error .badSignature := by
  obtain ⟨after, read, world, -, still⟩ : ∃ after, deployment.attempt facilities
      (authority.currentSecret hint.subject) = (.ok (deployment.world.held _), after) ∧ _ :=
    attempt_currentSecret_of_calm never calm
  rw [held] at read
  have refused : (after.attempt facilities (authority.accept token hint live)).1 =
      .error .badSignature :=
    attempt_accept_of_strange never still (world ▸ held) (Token.Codec.decode_of_not_tagged peeked strange)
  obtain ⟨last, refused⟩ : ∃ last, after.attempt facilities (authority.accept token hint live) =
      (.error .badSignature, last) := ⟨_, Prod.ext refused rfl⟩
  obtain ⟨told, rejected, -⟩ : ∃ told, last.attempt facilities
      (reject hint.subject .badSignature : Attempt Claims) = (.error .badSignature, told) ∧ _ :=
    attempt_reject .badSignature
  rw [verify, Deployment.attempt_bind, Deployment.attempt_ofResult, peeked]
  simp only
  rw [Deployment.attempt_bind, read]
  simp only
  rw [Deployment.attempt_bind, rejecting, Deployment.attempt_tryCatch, refused]
  simp only
  rw [rejected]

/-- Once the secret is gone, no token of its subject counts any longer. -/
theorem attempt_verify_of_gone {hint : Claims} (never : facilities.cancellation = .never)
    (peeked : Token.peek token = .ok hint)
    (calm : deployment.troubles.next (.get (Secret.key hint.subject)) = .pass)
    (gone : deployment.world.held (Secret.key hint.subject) = none) :
    (deployment.attempt facilities (authority.verify token required)).1 =
      .error .unknownSubject := by
  obtain ⟨after, read, -⟩ : ∃ after, deployment.attempt facilities
      (authority.currentSecret hint.subject) = (.ok none, after) ∧ after.now = deployment.now :=
    attempt_currentSecret never calm gone
  rw [verify, Deployment.attempt_bind, Deployment.attempt_ofResult, peeked]
  simp only
  rw [Deployment.attempt_bind, read]
  rfl

/-- Where nothing goes wrong, revoking a subject drops its secret, held or not. -/
theorem attempt_revokeSubject (never : facilities.cancellation = .never)
    (calm : deployment.troubles = {}) : ∃ after,
    deployment.attempt facilities (authority.revokeSubject subject) = (.ok (), after) ∧
      after.world = ⟨deployment.clock, deployment.store.delete [Secret.key subject]⟩ := by
  have reached : deployment.attempt facilities (authority.call (.delete (Secret.key subject))) =
      deployment.reach (.delete (Secret.key subject)) :=
    Deployment.call_of_calm never calm (.delete (Secret.key subject))
      authority.settings.storeTimeoutSpan
  have deleted : (deployment.reach (.delete (Secret.key subject))).1 = .ok () := rfl
  rw [revokeSubject, Deployment.attempt_bind, reached, Prod.ext deleted rfl]
  exact ⟨_, rfl, rfl⟩

end Authority
end Signet
