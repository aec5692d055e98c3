import Signet.Proofs.Authority.Endurance
import Signet.Proofs.Authority.Issuing
import Signet.Proofs.Remote.Store

/-! Numbers of settings on their way. What passes the checks is nowhere cut, wrapped or refused later:
not where claims are stamped, not where secrets are kept, and not between a store and its clients. -/

namespace Signet

namespace Store

variable {now : Instant} {ttl longer : Span}

/-- A moment that can be named for a longer time can be named for a shorter one. -/
theorem deadline_of_le (shorter : ttl ≤ longer) (named : now.after? longer ≠ none) :
    deadline now ttl = .ok (now + ttl) := by
  have ranged : (now + longer) / Span.second < instantBound := by
    unfold Instant.after? at named
    split at named
    · assumption
    · exact absurd rfl named
  have sooner : (now + ttl) / Span.second ≤ (now + longer) / Span.second :=
    Nat.div_le_div_right (Nat.add_le_add_left shorter now)
  exact deadline_eq_ok_iff.mpr ⟨Nat.lt_of_le_of_lt sooner ranged, rfl⟩

/-- A claim is refused for its deadline only. -/
theorem exists_claim_of_deadline {deadline : Instant} (ranged : Store.deadline now ttl = .ok deadline)
    (store : Store) (key : String) (fresh : Secret) :
    ∃ live after, store.claim now key fresh ttl = .ok (live, after) := by
  rw [claim, ranged]
  cases store.live? now key with
  | none => exact ⟨_, _, rfl⟩
  | some entry => exact ⟨_, _, rfl⟩

theorem exists_put_of_deadline {deadline : Instant} (ranged : Store.deadline now ttl = .ok deadline)
    (store : Store) (secrets : Dict Secret) :
    ∃ after, store.put now secrets ttl = .ok after := by
  rw [put, ranged]
  exact ⟨_, rfl⟩

end Store

namespace Settings

variable {settings : Settings}

/-- What comes of the numbers of settings in an authority, in a store and between them. -/
structure Exact (settings : Settings) : Prop where
  made : ∃ authority, Authority.ofSettings settings = .ok authority
  /-- While the clock is not at the end of all time, a token expires its lifetime after its issue. -/
  stamped : ∀ {σ : Type} [SecretStore σ] (authority : Authority)
    (facilities : Deployment.Facilities σ) (deployment : Deployment σ) subject permissions token,
    authority.settings = settings →
    (deployment.attempt facilities (authority.issue subject permissions)).1 = .ok token →
    (authority.stamp.getD deployment.now).toNat ≤ UInt64.size - 1 - greatestTtl →
    ∃ claims, Token.peek token = .ok claims ∧
      claims.issuedAt = authority.stamp.getD deployment.now ∧
      claims.notBefore = claims.issuedAt ∧
      claims.expiresAt.toNat = claims.issuedAt.toNat + settings.tokenLifetime.toNat
  /-- While the clock of a store can tell the greatest time from now on, no secret is refused. -/
  kept : ∀ now : Instant, now.after? (Span.ofSeconds greatestTtl) ≠ none →
    Store.deadline now settings.secretTtlSpan = .ok (now + settings.secretTtlSpan) ∧
    ∀ store : Store,
      (∀ key fresh, ∃ live after,
        store.claim now key fresh settings.secretTtlSpan = .ok (live, after)) ∧
      ∀ secrets, ∃ after, store.put now secrets settings.secretTtlSpan = .ok after
  /-- So, if nothing else goes wrong, whoever is named is issued a token; but the length of secrets has
  no limit, and only if there is room for them, issuing does not break off. -/
  issued : ∀ (authority : Authority) (deployment : Deployment Store) (occasion : Occasion)
    subject permissions, authority.settings = settings → subject ≠ "" →
    deployment.troubles = {} → occasion.cancellation = .never →
    (∀ length, ∃ bytes, occasion.random length = .ok bytes) →
    deployment.clock.after? (Span.ofSeconds greatestTtl) ≠ none →
    ∃ token after, deployment.attempt occasion.facilities (authority.issue subject permissions) =
        (.ok token, after) ∧
      (settings.secretLength.toNat ≤ Secret.greatestLength →
        deployment.execute occasion.facilities (authority.issue subject permissions).run =
          (some (.ok token), after))
  /-- The milliseconds that a client sends stand for the very time, and the service accepts it. -/
  sent : (Remote.ttlMillis settings.secretTtlSpan).toNat = settings.secretTtl.toNat * 1000 ∧
    Store.acceptedTtl (Remote.ttlMillis settings.secretTtlSpan) = some settings.secretTtlSpan

namespace Sound

variable (sound : settings.Sound)
include sound

theorem secretTtlSpan_le : settings.secretTtlSpan ≤ Span.ofSeconds greatestTtl :=
  Nat.mul_le_mul_right Span.second sound.secretTtl

theorem tokenLifetime_le : settings.tokenLifetime.toNat ≤ greatestTtl :=
  Nat.le_trans (Nat.le_trans (Nat.le_add_right ..) sound.covers) sound.secretTtl

theorem exists_authority : ∃ authority, Authority.ofSettings settings = .ok authority := by
  have passed := validate_eq_ok_iff.mpr sound
  obtain ⟨algorithm, named⟩ := exists_signingAlgorithm_iff.mpr sound.algorithm
  rw [Authority.ofSettings, passed]
  simp only [Token.Codec.ofSettings, named]
  exact ⟨_, rfl⟩

theorem toNat_ttlMillis :
    (Remote.ttlMillis settings.secretTtlSpan).toNat = settings.secretTtl.toNat * 1000 := by
  have short := sound.secretTtl
  rw [Remote.toNat_ttlMillis, secretTtlSpan_eq_ofMillis, Remote.toMillis_ofMillis]
  simp only [greatestTtl, UInt64.size] at short ⊢
  omega

theorem acceptedTtl_eq :
    Store.acceptedTtl (Remote.ttlMillis settings.secretTtlSpan) = some settings.secretTtlSpan := by
  rw [Store.acceptedTtl, sound.toNat_ttlMillis, ← secretTtlSpan_eq_ofMillis]
  exact if_pos sound.secretTtlSpan_le

theorem exact : settings.Exact where
  made := sound.exists_authority
  stamped := by
    intro σ _ authority facilities deployment subject permissions token same issued early
    subst same
    obtain ⟨fresh, secret, -, ⟨expiresAt, exact, peeked⟩, -⟩ :=
      (Authority.outcomes_of_attempt authority subject permissions facilities deployment).issued
        token issued
    refine ⟨_, peeked, rfl, rfl, exact.trans (Nat.min_eq_left ?_)⟩
    have short := sound.tokenLifetime_le
    simp only [greatestTtl, UInt64.size] at early short ⊢
    omega
  kept := by
    intro now named
    have ranged := Store.deadline_of_le sound.secretTtlSpan_le named
    exact ⟨ranged, fun store => ⟨Store.exists_claim_of_deadline ranged store,
      Store.exists_put_of_deadline ranged store⟩⟩
  issued := by
    intro authority deployment occasion subject permissions same named calm never draws clock
    subst same
    have ranged := Store.deadline_of_le sound.secretTtlSpan_le clock
    obtain ⟨token, after, issued⟩ :=
      Authority.issue_total named calm never draws (Store.deadline_eq_ok_iff.mp ranged).1
    refine ⟨token, after, issued, fun room => ?_⟩
    have fits : (authority.issue subject permissions).run.Only Query.Fits :=
      Authority.issue_only Authority.fits_of_quiet room fun _ => trivial
    have ran : deployment.run occasion.facilities (authority.issue subject permissions).run =
        (.ok token, after) := issued
    rw [Deployment.execute_of_fits (fun _ _ _ => rfl) fits, ran]
  sent := ⟨sound.toNat_ttlMillis, sound.acceptedTtl_eq⟩

end Sound

/-- Settings that pass are sound and exact, the others are refused, whatever the sum of a lifetime and
a leeway comes to in 64 bits; and no service starts with settings that have not passed. -/
theorem validated_exact (settings : Settings) :
    (settings.validate = .ok () → settings.Sound ∧ settings.Exact) ∧
    (¬ settings.Sound → ∃ error, settings.validate = .error error) ∧
    ∀ files environment, load files environment = .ok settings → settings.validate = .ok () := by
  refine ⟨?_, ?_, ?_⟩
  · intro passed
    have sound := validate_eq_ok_iff.mp passed
    exact ⟨sound, sound.exact⟩
  · intro unsound
    cases checked : settings.validate with
    | error error => exact ⟨error, rfl⟩
    | ok _ => exact absurd (validate_eq_ok_iff.mp checked) unsound
  · intro files environment loaded
    exact validate_eq_ok_iff.mpr (sound_of_load loaded)

/-- Settings at their limits: a secret stays as long as it may, and a token and the leeway take all of
that time. -/
def tightest : Settings :=
  { standard with tokenLifetime := 302401, leeway := 302399, secretTtl := 604800 }

/-- The clock of this authority stands at the last second for which times are exact. -/
def sampleLast : Authority :=
  ⟨tightest, ⟨"tokenauth", 302399, .hs256⟩, some (UInt64.ofNat (UInt64.size - 1 - greatestTtl))⟩

/-- Nothing is cut at the limits; and a leeway is refused with which the sum is zero in 64 bits. -/
theorem tightest_exact :
    tightest.validate = .ok () ∧
    (∃ token after claims, Deployment.sampleStart.attempt (sampleOccasion 7).facilities
        (sampleLast.issue "ann" .readAccount) = (.ok token, after) ∧
      Deployment.sampleStart.execute (sampleOccasion 7).facilities
        (sampleLast.issue "ann" .readAccount).run = (some (.ok token), after) ∧
      Token.peek token = .ok claims ∧
      claims.expiresAt.toNat = UInt64.size - 1 - greatestTtl + 302401) ∧
    Store.acceptedTtl (Remote.ttlMillis tightest.secretTtlSpan) = some tightest.secretTtlSpan ∧
    ∃ error, { tightest with leeway := 0 - 302401 }.validate = .error error := by
  have passed : tightest.validate = .ok () := rfl
  obtain ⟨-, exact⟩ := (validated_exact tightest).1 passed
  refine ⟨passed, ?_, exact.sent.2, (validated_exact _).2.1 ?_⟩
  · obtain ⟨token, after, issued, executed⟩ := exact.issued sampleLast Deployment.sampleStart
      (sampleOccasion 7) "ann" .readAccount rfl (by decide) rfl rfl (fun _ => ⟨_, rfl⟩) (by decide)
    obtain ⟨claims, peeked, same, -, expires⟩ := exact.stamped sampleLast _ _ _ _ token rfl
      (congrArg Prod.fst issued) (by decide)
    refine ⟨token, after, claims, issued, executed (by decide), peeked, ?_⟩
    rw [expires, same]
    rfl
  · intro sound
    exact absurd sound.leeway (by decide)

end Settings
end Signet
