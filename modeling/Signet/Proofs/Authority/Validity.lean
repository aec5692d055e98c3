import Signet.Proofs.Authority.Verdict

/-! How long an issued token counts. Its secret was visible when it was claimed and stays so for the
time of a secret, whatever else happens that neither writes under the key of the subject nor drops
it; meanwhile the window of the token decides. -/

namespace Signet.Authority

variable {authority : Authority} {subject token : String} {permissions required : Permission}
  {start : World} {calls : Nat → Call} {earlier later : List Event} {issuer : Nat}
  {fresh secret : Secret} {ttl within : Span}

/-- The claim that a call makes on the way to a token is one of the secret drawn before. -/
private theorem claim_of_issue {exchanges : List Exchange} {key : String}
    (issued : (authority.issue subject permissions).run.Yields exchanges (.ok token))
    (claimed : ⟨.store (.claim key fresh ttl) within, .ok secret⟩ ∈ exchanges) :
    key = Secret.key subject ∧ ttl = authority.settings.secretTtlSpan ∧
      authority.draw (.ok fresh) ∈ exchanges ∧ ∃ moment claims, authority.Stamps exchanges moment ∧
      Claims.issue subject permissions moment authority.settings.tokenLifetime
        authority.settings.issuer = .ok claims ∧
      authority.codec.encode claims secret = .ok token := by
  obtain ⟨-, drawn, answered, others, rfl, quiet, signed⟩ := issue_ok_path issued
  rcases List.mem_cons.mp claimed with first | behind
  · cases first
  · rcases List.mem_cons.mp behind with second | last
    · cases second
      exact ⟨rfl, rfl, List.mem_cons_self .., signed⟩
    · exact absurd (quiet _ last) not_false

/-- The secret of an issued token stays visible under the key of its subject, whatever happens in a
history that spares the key, until the time of a secret has passed since the claim. -/
theorem held_after_issue {history : List Event} (valid : authority.Valid)
    (claimed : history = earlier ++
      .reached issuer (.claim (Secret.key subject) fresh ttl) within (.ok secret) :: later)
    (admits : start.Admits history)
    (issued : (authority.issue subject permissions).run.Yields (exchangesOf issuer history)
      (.ok token))
    (spared : ∀ event ∈ later, event.Spares (Secret.key subject))
    (early : (start.after history).clock <
      (start.after earlier).clock + authority.settings.secretTtlSpan) :
    (start.after history).held (Secret.key subject) = some secret := by
  obtain ⟨-, rfl, drawn, -⟩ := claim_of_issue issued (mem_exchangesOf_reached claimed)
  have full := valid.isEmpty_eq_false (admits.length_drawn drawn)
  subst claimed
  obtain ⟨fits, -⟩ := (World.admits_append_iff.mp admits).2
  obtain ⟨full, keeps⟩ := World.keeps_claimed full fits.answered
  rw [World.after_append] at early ⊢
  exact (keeps.after full spared).held full early

/-- Once a token has been issued, the answer to an undisturbed verification is up to its window, as
long as the time of a secret has not passed since the claim and nobody has written under the key of
the subject or dropped it. -/
theorem attempt_verify_after_issue {history : List Event} (valid : authority.Valid)
    (claimed : history = earlier ++
      .reached issuer (.claim (Secret.key subject) fresh ttl) within (.ok secret) :: later)
    (run : Run start calls history)
    (issued : (authority.issue subject permissions).run.Yields (exchangesOf issuer history)
      (.ok token))
    (spared : ∀ event ∈ later, event.Spares (Secret.key subject)) :
    ∃ moment, authority.Stamps (exchangesOf issuer history) moment ∧
      ∀ (facilities : Deployment.Facilities Store) (deployment : Deployment Store)
        (required : Permission), facilities.cancellation = .never →
        deployment.troubles.next (.get (Secret.key subject)) = .pass →
        deployment.world = start.after history →
        deployment.clock < (start.after earlier).clock + authority.settings.secretTtlSpan →
        authority.settings.leeway ≤ deployment.now →
        deployment.now.toNat + authority.settings.leeway.toNat < UInt64.size →
        (deployment.attempt facilities (authority.verify token required)).1 =
          if min (moment.toNat + authority.settings.tokenLifetime.toNat) (UInt64.size - 1) +
              authority.settings.leeway.toNat < deployment.now.toNat then .error .expired
          else if deployment.now.toNat + authority.settings.leeway.toNat < moment.toNat then
            .error .notYetValid
          else .ok (permissions.hasAll required) := by
  obtain ⟨-, -, -, moment, claims, stamps, made, encoded⟩ :=
    claim_of_issue issued (mem_exchangesOf_reached claimed)
  obtain rfl := Claims.issue_eq_ok made
  refine ⟨moment, stamps, ?_⟩
  intro facilities deployment required never calm world early small large
  have held : deployment.world.held (Secret.key subject) = some secret := by
    have early : deployment.world.clock <
        (start.after earlier).clock + authority.settings.secretTtlSpan := early
    rw [world] at early ⊢
    exact held_after_issue valid claimed run.admits issued spared early
  have answer : (deployment.attempt facilities (authority.verify token required)).1 = _ :=
    attempt_verify never calm held encoded valid.issuer.symm
  rw [answer, Token.Codec.checkWindow_eq (by rwa [valid.leeway]) (by rwa [valid.leeway]),
    valid.leeway, toNat_saturatingAdd]
  split
  · rfl
  · split <;> rfl

/-- The sample token is issued to a caller, the store is purged, and a minute passes. -/
def sampleIssue (first second : Log.Event) : List Event := [
  .aside 0 (sample.draw (.ok sampleSecret)),
  .reached 0 (.claim (Secret.key "ann") sampleSecret sample.settings.secretTtlSpan)
    sample.settings.storeTimeoutSpan (.ok sampleSecret),
  .aside 0 ⟨.report first, ()⟩,
  .aside 0 ⟨.report second, ()⟩,
  .direct .purge,
  .passed (Span.ofSeconds 60)]

theorem run_sampleIssue {first second : Log.Event}
    (issued : (sample.issue "ann" .readAccount).run.Yields
      (exchangesOf 0 (sampleIssue first second)) (.ok sampleToken)) :
    Run ⟨0, Store.empty⟩ (fun _ => ⟨sample, .issue "ann" .readAccount⟩)
      (sampleIssue first second) where
  admits := ⟨rfl, .inl rfl, trivial, trivial, trivial, trivial, trivial⟩
  follows
    | 0 => ⟨_, issued⟩
    | _ + 1 => ⟨_, .here _⟩

/-- A deployment on the store after that. -/
def sampleDeployment : Deployment Store where
  wall := 1060000
  clock := Span.ofSeconds 60
  store := ((World.use ⟨0, Store.empty⟩ (.claim (Secret.key "ann") sampleSecret
    sample.settings.secretTtlSpan)).use .purge).store
  troubles := {}
  draws := 1
  reports := []

/-- The sample token is accepted a minute after it was issued. -/
theorem attempt_verify_sampleToken : ∃ first second,
    (sample.issue "ann" .readAccount).run.Yields (exchangesOf 0 (sampleIssue first second))
      (.ok sampleToken) ∧
    ∀ facilities : Deployment.Facilities Store, facilities.cancellation = .never →
      (sampleDeployment.attempt facilities (sample.verify sampleToken .readAccount)).1 =
        .ok true := by
  have issued : ∃ first second, (sample.issue "ann" .readAccount).run.Yields
      (exchangesOf 0 (sampleIssue first second)) (.ok sampleToken) :=
    yields_issue (by decide) rfl rfl encode_sampleClaims
  obtain ⟨first, second, issued⟩ := issued
  refine ⟨first, second, issued, ?_⟩
  intro facilities never
  have claimed : sampleIssue first second = [.aside 0 (sample.draw (.ok sampleSecret))] ++
      .reached 0 (.claim (Secret.key "ann") sampleSecret sample.settings.secretTtlSpan)
        sample.settings.storeTimeoutSpan (.ok sampleSecret) ::
      (sampleIssue first second).drop 2 := rfl
  have spared : ∀ event ∈ (sampleIssue first second).drop 2,
      event.Spares (Secret.key "ann") := by
    intro event member access used
    simp only [sampleIssue, List.drop_succ_cons, List.drop_zero, List.mem_cons,
      List.not_mem_nil, or_false] at member
    rcases member with rfl | rfl | rfl | rfl <;> cases used
    trivial
  obtain ⟨moment, stamps, verdict⟩ :=
    attempt_verify_after_issue sample_valid claimed (run_sampleIssue issued) issued spared
  obtain rfl : moment = 1000 := by
    rcases stamps with stamped | ⟨unstamped, -⟩
    · exact (Option.some.inj stamped).symm
    · cases unstamped
  have world : sampleDeployment.world =
      World.after ⟨0, Store.empty⟩ (sampleIssue first second) := by
    show World.mk _ _ = World.mk (0 + Span.ofSeconds 60) _
    rw [Nat.zero_add]
    rfl
  exact verdict facilities sampleDeployment .readAccount never rfl world (by decide) (by decide)
    (by decide)

end Signet.Authority
