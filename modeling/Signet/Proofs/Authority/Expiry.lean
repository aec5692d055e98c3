import Signet.Proofs.Authority.Endurance
import Signet.Proofs.Authority.Removal

/-! What is told of an expired token. As long as the secret that signed it has not lapsed, it has
expired and nothing else; afterwards its signature can no longer be told from a forged one. -/

namespace Signet.Authority

open Deployment (Elapsed)

variable {authority : Authority} {subject token : String} {permissions : Permission}
  {start middle : Deployment Store} {occasion : Occasion} {turns : List (Turn Call)}

/-- While nobody drops or overwrites it, the secret of an issued token stays visible for its time, and
on as long as one is visible at all. -/
theorem held_of_issued {ρ : Type} {α : ρ → Type} {serve : (request : ρ) → Operation (α request)}
    {turns : List (Turn ρ)} (valid : authority.Valid) (calm : start.troubles = {})
    (never : occasion.cancellation = .never)
    (fair : ∀ length bytes, occasion.random length = .ok bytes → bytes.length = length)
    (issued : start.attempt occasion.facilities (authority.issue subject permissions) =
      (.ok token, middle))
    (smooth : ∀ turn ∈ turns, turn.Smooth)
    (spares : middle.Spares serve (Secret.key subject) turns) :
    ∃ secret, authority.codec.encode ⟨subject, permissions, authority.stamp.getD start.now,
        authority.stamp.getD start.now,
        saturatingAdd (authority.stamp.getD start.now) authority.settings.tokenLifetime,
        authority.settings.issuer⟩ secret = .ok token ∧
      (middle.after serve turns).troubles = {} ∧
      ((middle.after serve turns).clock <
          start.clock + authority.settings.secretTtlSpan ∨
        middle.Visible serve (Secret.key subject) turns →
      (middle.after serve turns).world.held (Secret.key subject) = some secret) := by
  obtain ⟨secret, full, keeps, encoded⟩ := keeps_stamped valid calm never fair issued
  have ended : (start.run occasion.facilities (authority.issue subject permissions).run).2 =
      middle := congrArg Prod.snd issued
  have elapsed : Elapsed 0 start middle := ended ▸ Deployment.elapsed_run never calm _
  have later : ∃ millis, Elapsed millis middle (middle.after serve turns) :=
    Deployment.elapsed_after smooth elapsed.calm
  obtain ⟨millis, later⟩ := later
  refine ⟨secret, encoded, later.calm, ?_⟩
  rintro (early | visible)
  · exact (Deployment.keeps_after full spares keeps).held full early
  · have clock : middle.clock = start.clock := by simpa [Span.ofMillis] using elapsed.clock
    have early : middle.clock < start.clock + authority.settings.secretTtlSpan := by
      rw [clock]
      exact Nat.lt_add_of_pos_right valid.secretTtlSpan_pos
    exact Deployment.held_after smooth elapsed.calm spares visible (keeps.held full early)

/-- An expired token has expired, however long ago, as long as the secret that signed it has not lapsed:
for its time, and on as long as the subject has a visible secret at all. Once it has lapsed, the subject
is unknown while it has none, and the signature does not fit while it has another one that has not
signed the token. -/
theorem verify_of_expired (valid : authority.Valid) (calm : start.troubles = {})
    (never : occasion.cancellation = .never)
    (fair : ∀ length bytes, occasion.random length = .ok bytes → bytes.length = length)
    (issued : start.attempt occasion.facilities (authority.issue subject permissions) =
      (.ok token, middle))
    (smooth : ∀ turn ∈ turns, turn.Smooth)
    (spares : middle.Spares Call.operation (Secret.key subject) turns)
    (late : (saturatingAdd (authority.stamp.getD start.now)
        authority.settings.tokenLifetime).toNat + authority.settings.leeway.toNat <
      (middle.after Call.operation turns).now.toNat)
    {facilities : Deployment.Facilities Store} (undisturbed : facilities.cancellation = .never)
    (required : Permission) :
    let last := middle.after Call.operation turns
    let verdict := (last.attempt facilities (authority.verify token required)).1
    (last.clock < start.clock + authority.settings.secretTtlSpan ∨
        middle.Visible Call.operation (Secret.key subject) turns → verdict = .error .expired) ∧
      (last.world.held (Secret.key subject) = none → verdict = .error .unknownSubject) ∧
      ∀ live, last.world.held (Secret.key subject) = some live →
        (Token.Tagged token live → verdict = .error .expired) ∧
        (¬ Token.Tagged token live → verdict = .error .badSignature) := by
  intro last verdict
  obtain ⟨secret, encoded, still, stays⟩ :=
    held_of_issued valid calm never fair issued smooth spares
  have named := (Claims.check_eq_ok_iff.mp (Token.Codec.encode_eq_ok_iff.mp encoded).1).1
  have peeked := Token.Codec.peek_encode encoded named
  have met : last.troubles.next (.get (Secret.key subject)) = .pass := by rw [still]; rfl
  rw [← valid.leeway] at late
  have expired : ∀ live, last.world.held (Secret.key subject) = some live →
      Token.Tagged token live → verdict = .error .expired := by
    intro live held tagged
    obtain ⟨-, -, issuer, ordered⟩ := Token.Codec.decodeIgnoringTime_eq_ok_iff.mp
      (Token.Codec.decodeIgnoringTime_encode encoded valid.issuer.symm)
    have signed : authority.codec.decodeIgnoringTime token live = .ok _ :=
      Token.Codec.decodeIgnoringTime_eq_ok_iff.mpr ⟨peeked, tagged, issuer, ordered⟩
    refine (attempt_verify_of_signed undisturbed met held signed).trans ?_
    rw [Token.Codec.checkWindow_of_late late]
    rfl
  refine ⟨fun lasts => ?_, fun gone => ?_, fun live held => ⟨expired live held, fun strange => ?_⟩⟩
  · exact expired secret (stays lasts) (Token.Codec.tagged_of_encode encoded)
  · exact attempt_verify_of_gone undisturbed peeked met gone
  · exact attempt_verify_of_strange undisturbed still peeked held strange

/-- The authority that the standard settings ask for, with tokens stamped by the clock. -/
def sampleClocked : Authority := { sample with stamp := none }

theorem sampleClocked_valid : sampleClocked.Valid := rfl

/-- It issues a token, at the start of second 1000. -/
def sampleSession : Except AuthError String × Deployment Store :=
  Deployment.sampleStart.attempt (sampleOccasion 7).facilities
    (sampleClocked.issue "ann" .readAccount)

theorem sampleSession_eq : sampleSession.1 = .ok sampleToken := rfl

/-- Twenty minutes pass, and then the subject signs in again. -/
def sampleRenewal : List (Turn Call) :=
  [.wait 1200000, .ask ⟨sampleClocked, .issue "ann" .readAccount⟩ (sampleOccasion 8)]

/-- The token of the first session has long expired, but what is found is that its signature does not
fit: its secret has lapsed, and the second session has another one. -/
theorem badSignature_after_sampleRenewal :
    sampleClocked.Valid ∧ Deployment.sampleStart.troubles = {} ∧ sampleSession.1 = .ok sampleToken ∧
      (∀ turn ∈ sampleRenewal, turn.Smooth) ∧
      sampleSession.2.Spares Call.operation (Secret.key "ann") sampleRenewal ∧
      sampleClaims.expiresAt.toNat + sampleClocked.settings.leeway.toNat <
        (sampleSession.2.after Call.operation sampleRenewal).now.toNat ∧
      ((sampleSession.2.after Call.operation sampleRenewal).attempt (sampleOccasion 9).facilities
        (sampleClocked.verify sampleToken .readAccount)).1 = .error .badSignature := by
  have smooth : ∀ turn ∈ sampleRenewal, turn.Smooth := by
    intro turn member
    rcases List.mem_cons.mp member with rfl | last
    · trivial
    · obtain rfl := List.mem_singleton.mp last
      rfl
  have spares : sampleSession.2.Spares Call.operation (Secret.key "ann") sampleRenewal := by
    refine ⟨?_, ?_, trivial⟩
    · intro access member
      cases member
    · intro access member
      obtain ⟨exchange, asked, used⟩ := List.mem_filterMap.mp member
      have only : (sampleClocked.issue "ann" .readAccount).run.Only fun query =>
          ∀ access, query.access? = some access → access.Spares (Secret.key "ann") :=
        issue_spares (Secret.key "ann")
      exact only.of_mem (Operation.yields_path _ _ _) exchange asked access used
  have wall : (sampleSession.2.after Call.operation sampleRenewal).now = 2200 := rfl
  have held : (sampleSession.2.after Call.operation sampleRenewal).world.held (Secret.key "ann") =
      some otherSecret := by decide +kernel
  have still : (sampleSession.2.after Call.operation sampleRenewal).troubles = {} := rfl
  refine ⟨sampleClocked_valid, rfl, sampleSession_eq, smooth, spares, ?_, ?_⟩
  · rw [wall]
    decide
  · exact attempt_verify_of_strange rfl still peek_sampleToken held not_tagged_otherSecret

/-- Half a minute before the secret lapses, the token has expired. -/
theorem verify_of_expired_before_lapse :
    ((sampleSession.2.after Call.operation [.wait 1170000]).attempt (sampleOccasion 9).facilities
      (sampleClocked.verify sampleToken .readAccount)).1 = .error .expired := by
  have issued : Deployment.sampleStart.attempt (sampleOccasion 7).facilities
      (sampleClocked.issue "ann" .readAccount) = (.ok sampleToken, sampleSession.2) :=
    Prod.ext sampleSession_eq rfl
  have second : (sampleSession.2.after Call.operation [.wait 1170000]).now = 2170 := rfl
  have clock : (sampleSession.2.after Call.operation [.wait 1170000]).clock =
    Span.ofMillis 1170000 := rfl
  have late : (saturatingAdd (sampleClocked.stamp.getD Deployment.sampleStart.now)
      sampleClocked.settings.tokenLifetime).toNat + sampleClocked.settings.leeway.toNat <
      (sampleSession.2.after Call.operation [.wait 1170000]).now.toNat := by
    rw [second]
    decide
  refine (verify_of_expired sampleClocked_valid rfl rfl (sampleOccasion_fair 7) issued
    (Turn.smooth_wait 1170000) (Deployment.spares_wait 1170000) late rfl .readAccount).1 (.inl ?_)
  rw [clock]
  decide

end Signet.Authority
