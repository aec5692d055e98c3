import Signet.Proofs.Authority.Validity

/-! What a revocation comes to where nothing goes wrong. The token alone says whose secret is looked at,
and that secret alone says whether the token drops it; the time of the wall has no part in it. -/

namespace Signet

theorem World.held_delete (clock : Instant) (store : Store) (key : String) :
    World.held ⟨clock, store.delete [key]⟩ key = none := by
  have absent : (store.delete [key]).entries.find? key = none := by
    rw [Store.find?_delete, if_pos (List.mem_singleton.mpr rfl)]
  rw [World.held, Store.live?, absent]
  rfl

/-- Dropping what is visible changes the store. -/
theorem World.delete_ne_of_held {world : World} {key : String} {secret : Secret}
    (held : world.held key = some secret) : world.store.delete [key] ≠ world.store := by
  intro same
  have gone := World.held_delete world.clock world.store key
  rw [same] at gone
  exact absurd (gone.symm.trans held) (by simp)

namespace Authority

variable {authority : Authority} {token : String} {world : World} {result : Except AuthError Unit}
  {left : Store} {facilities : Deployment.Facilities Store} {deployment : Deployment Store}

/-- How a revocation ends in a world where nothing goes wrong, and the store that it leaves. -/
inductive Revokes (authority : Authority) (world : World) (token : String) :
    Except AuthError Unit → Store → Prop where
  /-- The token cannot be read. -/
  | unread {error : AuthError} (unread : Token.peek token = .error error) :
      Revokes authority world token (.error error) world.store
  /-- Nothing is to be revoked. -/
  | idle {hint : Claims} (peeked : Token.peek token = .ok hint)
      (gone : world.held (Secret.key hint.subject) = none) :
      Revokes authority world token (.ok ()) world.store
  /-- The token is not one that the secret of its subject has signed. -/
  | refused {hint : Claims} {secret : Secret} {error : AuthError}
      (peeked : Token.peek token = .ok hint)
      (held : world.held (Secret.key hint.subject) = some secret)
      (refused : authority.codec.decodeIgnoringTime token secret = .error error) :
      Revokes authority world token (.error error) world.store
  /-- The secret of its subject is dropped, and nothing else. -/
  | dropped {hint : Claims} {secret : Secret} {claims : Claims}
      (peeked : Token.peek token = .ok hint)
      (held : world.held (Secret.key hint.subject) = some secret)
      (signed : authority.codec.decodeIgnoringTime token secret = .ok claims) :
      Revokes authority world token (.ok ()) (world.store.delete [Secret.key hint.subject])

/-- A revocation can end in one way only. -/
theorem Revokes.unique {other : Except AuthError Unit} {later : Store}
    (one : authority.Revokes world token result left)
    (two : authority.Revokes world token other later) : other = result ∧ later = left := by
  -- Whichever two ways are compared, they agree on the claims, the secret and the check of the token.
  cases one <;> cases two <;> simp_all

/-- Whose claims can be read and whose subject is not held has nothing revoked; otherwise it is up to
the secret whether the subject is. -/
theorem attempt_revoke (authority : Authority) (token : String)
    (never : facilities.cancellation = .never)
    (calm : deployment.troubles = {}) :
    ∃ result after, deployment.attempt facilities (authority.revoke token) = (result, after) ∧
      after.clock = deployment.clock ∧
      authority.Revokes deployment.world token result after.store := by
  rw [revoke, Deployment.attempt_bind, Deployment.attempt_ofResult]
  cases peeked : Token.peek token with
  | error error => exact ⟨_, _, rfl, rfl, .unread peeked⟩
  | ok hint =>
    obtain ⟨read, looked, world, -, still⟩ : ∃ after, deployment.attempt facilities
        (authority.currentSecret hint.subject) = (.ok (deployment.world.held _), after) ∧ _ :=
      attempt_currentSecret_of_calm never calm
    simp only
    rw [Deployment.attempt_bind, looked]
    cases held : deployment.world.held (Secret.key hint.subject) with
    | none =>
      refine ⟨_, _, rfl, congrArg World.clock world, ?_⟩
      show authority.Revokes deployment.world token (.ok ()) read.world.store
      rw [world]
      exact .idle peeked held
    | some secret =>
      simp only
      rw [Deployment.attempt_bind, rejecting, Deployment.attempt_tryCatch,
        Deployment.attempt_ofResult]
      cases signed : authority.codec.decodeIgnoringTime token secret with
      | error error =>
        obtain ⟨told, rejected, same⟩ : ∃ told, read.attempt facilities
            (reject hint.subject error : Attempt Claims) = (.error error, told) ∧ _ :=
          attempt_reject error
        simp only
        rw [rejected]
        refine ⟨_, _, rfl, congrArg World.clock (same.trans world), ?_⟩
        show authority.Revokes deployment.world token (.error error) told.world.store
        rw [same, world]
        exact .refused peeked held signed
      | ok claims =>
        obtain ⟨dropped, deleted, left⟩ : ∃ after, read.attempt facilities
            (authority.revokeSubject hint.subject) = (.ok (), after) ∧ _ :=
          attempt_revokeSubject never still
        simp only
        rw [deleted]
        refine ⟨_, _, rfl, (congrArg World.clock left).trans (congrArg World.clock world), ?_⟩
        show authority.Revokes deployment.world token (.ok ()) dropped.world.store
        rw [left, show read.store = deployment.world.store from congrArg World.store world]
        exact .dropped peeked held signed

/-- While the secret that signed a token is visible, the token revokes its subject, whenever it counts. -/
theorem attempt_revoke_of_signed {secret : Secret} {claims : Claims}
    (never : facilities.cancellation = .never) (calm : deployment.troubles = {})
    (held : deployment.world.held (Secret.key claims.subject) = some secret)
    (signed : authority.codec.decodeIgnoringTime token secret = .ok claims) :
    (deployment.attempt facilities (authority.revoke token)).1 = .ok () := by
  obtain ⟨result, after, ended, -, revokes⟩ := attempt_revoke authority token never calm
  have peeked := (Token.Codec.decodeIgnoringTime_eq_ok_iff.mp signed).1
  obtain ⟨same, -⟩ := revokes.unique (.dropped peeked held signed)
  rw [ended, ← same]

/-- A revocation that ends well leaves nothing to revoke. -/
theorem Revokes.held_eq_none {hint : Claims} (revokes : authority.Revokes world token (.ok ()) left)
    (peeked : Token.peek token = .ok hint) :
    World.held ⟨world.clock, left⟩ (Secret.key hint.subject) = none := by
  cases revokes with
  | idle again gone =>
    cases peeked.symm.trans again
    exact gone
  | dropped again held signed =>
    cases peeked.symm.trans again
    exact World.held_delete ..

/-- Whoever is told that a token is revoked finds no secret of its subject. -/
theorem held_of_revoked {hint : Claims} {after : Deployment Store}
    (never : facilities.cancellation = .never) (calm : deployment.troubles = {})
    (peeked : Token.peek token = .ok hint)
    (revoked : deployment.attempt facilities (authority.revoke token) = (.ok (), after)) :
    after.world.held (Secret.key hint.subject) = none := by
  obtain ⟨result, after, ended, clock, revokes⟩ := attempt_revoke authority token never calm
  cases ended.symm.trans revoked
  have gone := revokes.held_eq_none peeked
  rwa [show World.clock deployment.world = after.clock from clock.symm] at gone

/-- What a revocation comes to, seen from the caller, who learns the result, and from the store. -/
structure Withdraws (authority : Authority) (token : String) (before : World)
    (result : Except AuthError Unit) (after : World) : Prop where
  /-- It ends in one of four ways, -/
  ends : authority.Revokes before token result after.store
  /-- and in no other. -/
  only : ∀ other later, authority.Revokes before token other later →
    other = result ∧ later = after.store
  /-- Whoever is told of an error finds everything as it was; the token cannot be read, or something
  is wrong with its signature, its issuer or the order of its times. -/
  fails : ∀ error, result = .error error → after.store = before.store ∧
    (Token.peek token = .error error ∨ error = .badSignature ∨ error = .wrongIssuer ∨
      error = .malformed .claimsOutOfOrder)
  /-- Whoever is told of none finds no secret of the subject. -/
  clears : result = .ok () → ∃ hint, Token.peek token = .ok hint ∧
    after.held (Secret.key hint.subject) = none
  /-- Just a signature of the visible secret makes a difference. -/
  drops : after.store ≠ before.store ↔ ∃ hint secret claims, Token.peek token = .ok hint ∧
    before.held (Secret.key hint.subject) = some secret ∧
    authority.codec.decodeIgnoringTime token secret = .ok claims
  /-- No other entry is touched. -/
  apart : ∀ hint key, Token.peek token = .ok hint → key ≠ Secret.key hint.subject →
    after.store.entries.find? key = before.store.entries.find? key
  /-- A token that the visible secret has not signed drops nothing. -/
  strange : ∀ hint secret, Token.peek token = .ok hint →
    before.held (Secret.key hint.subject) = some secret → ¬ Token.Tagged token secret →
    result = .error .badSignature ∧ after.store = before.store

theorem Revokes.withdraws {after : World} (clock : after.clock = world.clock)
    (revokes : authority.Revokes world token result after.store) :
    authority.Withdraws token world result after := by
  have sameWorld : (⟨world.clock, after.store⟩ : World) = after := by rw [← clock]
  constructor
  case ends => exact revokes
  case only => exact fun other later again => revokes.unique again
  case fails =>
    rintro error rfl
    generalize after.store = left at revokes
    cases revokes with
    | unread unread => exact ⟨rfl, .inl unread⟩
    | refused peeked held refused =>
      refine ⟨rfl, .inr ?_⟩
      rcases Token.Codec.decodeIgnoringTime_error peeked refused with ⟨same, -⟩ | ⟨-, same⟩
      · exact .inl same
      · exact .inr same
  case clears =>
    rintro rfl
    obtain ⟨hint, peeked⟩ : ∃ hint, Token.peek token = .ok hint := by
      generalize after.store = left at revokes
      cases revokes with
      | idle peeked => exact ⟨_, peeked⟩
      | dropped peeked => exact ⟨_, peeked⟩
    exact ⟨hint, peeked, sameWorld ▸ revokes.held_eq_none peeked⟩
  case drops =>
    constructor
    · intro changed
      generalize after.store = left at revokes changed
      cases revokes with
      | unread => exact absurd rfl changed
      | idle => exact absurd rfl changed
      | refused => exact absurd rfl changed
      | dropped peeked held signed => exact ⟨_, _, _, peeked, held, signed⟩
    · rintro ⟨hint, secret, claims, peeked, held, signed⟩
      rw [← (revokes.unique (.dropped peeked held signed)).2]
      exact World.delete_ne_of_held held
  case apart =>
    intro hint key peeked other
    generalize after.store = left at revokes
    cases revokes with
    | unread => rfl
    | idle => rfl
    | refused => rfl
    | dropped again held signed =>
      cases peeked.symm.trans again
      exact Dict.find?_erase_of_ne _ other
  case strange =>
    intro hint secret peeked held strange
    have refused : authority.codec.decodeIgnoringTime token secret = .error .badSignature :=
      Token.Codec.decodeIgnoringTime_of_not_tagged peeked strange
    obtain ⟨same, left⟩ := revokes.unique (.refused peeked held refused)
    exact ⟨same.symm, left.symm⟩

/-- Where nothing goes wrong, a revocation authenticates the token and does just what the token
authenticates. A token that cannot be read asks nothing of the store. What else is around the store and
its clock makes no difference, above all not the time on the wall. -/
theorem revoke_exact (authority : Authority) (token : String) (facilities : Deployment.Facilities Store)
    (deployment : Deployment Store) (never : facilities.cancellation = .never)
    (calm : deployment.troubles = {}) :
    ∃ result after, deployment.attempt facilities (authority.revoke token) = (result, after) ∧
      authority.Withdraws token deployment.world result after.world ∧
      (∀ error, Token.peek token = .error error → result = .error error ∧ after = deployment ∧
        (authority.revoke token).run.path (Deployment.answer facilities) deployment = []) ∧
      ∀ (others : Deployment.Facilities Store) (other : Deployment Store),
        others.cancellation = .never → other.troubles = {} → other.world = deployment.world →
        (other.attempt others (authority.revoke token)).1 = result ∧
          (other.attempt others (authority.revoke token)).2.world = after.world := by
  obtain ⟨result, after, ended, clock, revokes⟩ := attempt_revoke authority token never calm
  refine ⟨result, after, ended, revokes.withdraws clock, ?_, ?_⟩
  · intro error unread
    have stuck : deployment.attempt facilities (authority.revoke token) =
        (.error error, deployment) := by
      rw [revoke, Deployment.attempt_bind, Deployment.attempt_ofResult, unread]
    obtain ⟨rfl, rfl⟩ : result = .error error ∧ after = deployment := by
      simpa using ended.symm.trans stuck
    refine ⟨rfl, rfl, ?_⟩
    rw [revoke, unread]
    rfl
  · intro others other calmly still same
    obtain ⟨verdict, later, finished, timed, again⟩ :=
      attempt_revoke authority token calmly still
    rw [same] at again
    obtain ⟨rfl, left⟩ := revokes.unique again
    have clocks : later.clock = after.clock :=
      timed.trans ((congrArg World.clock same).trans clock.symm)
    rw [finished]
    exact ⟨rfl, by rw [Deployment.world, Deployment.world, left, clocks]⟩

/-- The sample deployment, when the sample token has long expired. -/
def sampleAfterExpiry : Deployment Store := { sampleDeployment with wall := 5000000 }

/-- The expired token still revokes its subject. -/
theorem revoke_sampleToken_after_expiry :
    sample.codec.decode sampleAfterExpiry.now sampleToken sampleSecret = .error .expired ∧
    ∃ after, sampleAfterExpiry.attempt (sampleOccasion 9).facilities (sample.revoke sampleToken) =
        (.ok (), after) ∧
      after.store ≠ sampleAfterExpiry.store ∧ after.world.held (Secret.key "ann") = none := by
  have signed : sample.codec.decodeIgnoringTime sampleToken sampleSecret = .ok sampleClaims :=
    Token.Codec.decodeIgnoringTime_encode encode_sampleClaims rfl
  have held : sampleAfterExpiry.world.held (Secret.key "ann") = some sampleSecret := by decide
  obtain ⟨result, after, ended, withdraws, -, -⟩ :=
    revoke_exact sample sampleToken (sampleOccasion 9).facilities sampleAfterExpiry rfl rfl
  obtain ⟨rfl, -⟩ := withdraws.only _ _ (.dropped peek_sampleToken held signed)
  obtain ⟨hint, peeked, gone⟩ := withdraws.clears rfl
  cases peeked.symm.trans peek_sampleToken
  refine ⟨?_, after, ended, ?_, gone⟩
  · rw [Token.Codec.decode_of_ignoringTime signed]
    rfl
  · exact withdraws.drops.mpr ⟨_, _, _, peek_sampleToken, held, signed⟩

end Authority
end Signet
