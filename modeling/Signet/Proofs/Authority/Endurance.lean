import Signet.Proofs.Authority.Atomicity
import Signet.Proofs.Authority.Validity
import Signet.Proofs.Token.Acceptance

/-! How far a secret outlives the tokens that it has signed. Tokens count whole seconds, and their last
one to its end; secrets are kept to the moment. So a secret that is kept just as long as its tokens
count may end before they do, by less than a second. -/

namespace Signet.Authority

open Deployment (Elapsed)

variable {authority : Authority} {subject token : String} {permissions required : Permission}

/-- What is accepted has not lived longer than its lifetime and the leeway, in whole seconds. -/
theorem now_le_of_window {moment now : Timestamp} {issuer : String} (valid : authority.Valid)
    (inside : authority.codec.checkWindow now ⟨subject, permissions, moment, moment,
      saturatingAdd moment authority.settings.tokenLifetime, issuer⟩ = .ok ()) :
    now.toNat ≤ moment.toNat + authority.settings.tokenLifetime.toNat +
      authority.settings.leeway.toNat := by
  rw [← valid.leeway]
  by_cases small : authority.codec.leeway ≤ now
  · obtain ⟨-, lasts⟩ := Token.Codec.checkWindow_eq_ok inside small
    have ends := toNat_saturatingAdd moment authority.settings.tokenLifetime
    dsimp only at lasts
    omega
  · rw [UInt64.le_iff_toNat_le] at small
    omega

/-- Where nothing goes wrong, a token is issued to every named subject. -/
theorem issue_total {start : Deployment Store} {occasion : Occasion} (named : subject ≠ "")
    (calm : start.troubles = {}) (never : occasion.cancellation = .never)
    (draws : ∀ length, ∃ bytes, occasion.random length = .ok bytes)
    (dated : (start.clock + authority.settings.secretTtlSpan) / Span.second < instantBound) :
    ∃ token middle, start.attempt occasion.facilities (authority.issue subject permissions) =
      (.ok token, middle) := by
  have never : occasion.facilities.cancellation = .never := never
  obtain ⟨result, middle, ended⟩ : ∃ result middle, start.attempt occasion.facilities
      (authority.issue subject permissions) = (result, middle) := ⟨_, _, rfl⟩
  have yields := Deployment.yields_of_attempt ended
  rcases issue_path yields with ⟨-, -, empty⟩ | ⟨reason, others, path, -, -⟩ |
    ⟨-, fresh, answer, others, path, -, -, signed⟩
  · exact absurd empty named
  · have drawn : authority.draw (.error reason) ∈ (authority.issue subject permissions).run.path
        (Deployment.answer occasion.facilities) start := by
      rw [path]
      exact List.mem_cons_self ..
    obtain ⟨bytes, random⟩ := draws authority.settings.secretLength.toNat
    have fresh := Deployment.fresh_of_mem_path drawn
    rw [random] at fresh
    split at fresh
    · cases fresh
    · cases fresh
  · have claimed : authority.claim subject fresh answer ∈ (authority.issue subject
        permissions).run.path (Deployment.answer occasion.facilities) start := by
      rw [path]
      exact List.mem_cons_of_mem _ (List.mem_cons_self ..)
    obtain ⟨store, answered⟩ := Deployment.answered_of_calm never calm claimed
    have ranged := Store.deadline_eq_ok_iff.mpr ⟨dated, rfl⟩
    rcases World.claim_cases ⟨start.clock, store⟩ (Secret.key subject) fresh
      authority.settings.secretTtlSpan with ⟨error, failed, -⟩ | ⟨-, kept, -⟩
    · rw [ranged] at failed
      cases failed
    · obtain ⟨told, signing, -, signs⟩ := signed _ (answered.trans kept)
      obtain ⟨token, rfl⟩ := sign_total named signs
      exact ⟨token, middle, ended⟩

/-- What a token that has just been issued is: signed by a secret that stays from now on, and stamped
with the time of the authority, which is that of the clock if it has no other. -/
theorem keeps_stamped {start middle : Deployment Store} {occasion : Occasion}
    (valid : authority.Valid) (calm : start.troubles = {}) (never : occasion.cancellation = .never)
    (fair : ∀ length bytes, occasion.random length = .ok bytes → bytes.length = length)
    (issued : start.attempt occasion.facilities (authority.issue subject permissions) =
      (.ok token, middle)) :
    ∃ secret, secret.isEmpty = false ∧
      middle.world.Keeps (Secret.key subject) secret
        (start.clock + authority.settings.secretTtlSpan) ∧
      authority.codec.encode ⟨subject, permissions, authority.stamp.getD start.now,
        authority.stamp.getD start.now,
        saturatingAdd (authority.stamp.getD start.now) authority.settings.tokenLifetime,
        authority.settings.issuer⟩ secret = .ok token := by
  have never : occasion.facilities.cancellation = .never := never
  have yields := Deployment.yields_of_attempt issued
  obtain ⟨-, fresh, secret, others, path, -, moment, claims, stamps, stated, encoded⟩ :=
    issue_ok_path yields
  obtain rfl := Claims.issue_eq_ok stated
  have timed : authority.stamp.getD start.now = moment := stamps.eq_now.symm
  have long : fresh.length = authority.settings.secretLength.toNat := by
    have drawn : authority.draw (.ok fresh) ∈ (authority.issue subject permissions).run.path
        (Deployment.answer occasion.facilities) start := by
      rw [path]
      exact List.mem_cons_self ..
    exact Deployment.length_of_mem_path fair drawn
  have claimed : authority.claim subject fresh (.ok secret) ∈
      (authority.issue subject permissions).run.path (Deployment.answer occasion.facilities)
        start := by
    rw [path]
    exact List.mem_cons_of_mem _ (List.mem_cons_self ..)
  obtain ⟨full, keeps⟩ := Deployment.keeps_of_claim never calm
    (perform_apart authority (.issue subject permissions)) (valid.isEmpty_eq_false long)
    ((issue_spares (Secret.key subject)).of_mem yields) claimed
  have ended : (start.run occasion.facilities (authority.perform
    (.issue subject permissions)).run).2 = middle := congrArg Prod.snd issued
  rw [ended] at keeps
  rw [timed]
  exact ⟨secret, full, keeps, encoded⟩

theorem keeps_issued {start middle : Deployment Store} {occasion : Occasion}
    (valid : authority.Valid) (unstamped : authority.stamp = none) (calm : start.troubles = {})
    (never : occasion.cancellation = .never)
    (fair : ∀ length bytes, occasion.random length = .ok bytes → bytes.length = length)
    (issued : start.attempt occasion.facilities (authority.issue subject permissions) =
      (.ok token, middle)) :
    ∃ secret, secret.isEmpty = false ∧
      middle.world.Keeps (Secret.key subject) secret
        (start.clock + authority.settings.secretTtlSpan) ∧
      authority.codec.encode ⟨subject, permissions, start.now, start.now,
        saturatingAdd start.now authority.settings.tokenLifetime, authority.settings.issuer⟩
        secret = .ok token := by
  have stamped := keeps_stamped valid calm never fair issued
  rwa [unstamped, Option.getD_none] at stamped

/-- So many whole seconds of the wall clock take less than one second more. -/
theorem millis_lt_of_seconds {start last : Deployment Store} {millis count : Nat}
    (elapsed : Elapsed millis start last) (epoch : 0 ≤ start.wall)
    (era : last.wall / 1000 < UInt64.size)
    (seconds : last.now.toNat ≤ start.now.toNat + count) : millis < (count + 1) * 1000 := by
  have wall := elapsed.wall
  simp only [Deployment.now, UInt64.toNat_ofNat', UInt64.size] at seconds era
  omega

/-- A secret that is gone before its token has ended has been kept just as long as the token counts, and
has gone less than a second ago. -/
theorem tight_of_late {start last : Deployment Store} {millis : Nat} (valid : authority.Valid)
    (elapsed : Elapsed millis start last)
    (soon : millis < (authority.settings.tokenLifetime.toNat + authority.settings.leeway.toNat + 1) *
      1000)
    (late : start.clock + authority.settings.secretTtlSpan ≤ last.clock) :
    authority.settings.secretTtl.toNat =
        authority.settings.tokenLifetime.toNat + authority.settings.leeway.toNat ∧
      last.clock < start.clock + authority.settings.secretTtlSpan + Span.second := by
  have covers := valid.covers_token
  rw [elapsed.clock, Nat.add_le_add_iff_left] at late
  rw [elapsed.clock, Nat.add_assoc, Nat.add_lt_add_iff_left]
  have long : authority.settings.secretTtl.toNat * 1000000000 ≤ millis * 1000000 := late
  have tight : authority.settings.secretTtl.toNat = authority.settings.tokenLifetime.toNat +
      authority.settings.leeway.toNat := by omega
  have short : millis * 1000000 < authority.settings.secretTtl.toNat * 1000000000 + 1000000000 := by
    omega
  exact ⟨tight, short⟩

/-- What is verified while its token is accepted, under whatever secret: a token that has been issued
is good for its permissions, as long as nobody drops its secret or writes over it. Only if secrets are
kept just as long as tokens count, the last second of a token may find its secret gone. -/
theorem verify_of_accepted {start middle : Deployment Store} {occasion : Occasion}
    {turns : List (Turn Call)} {claims : Claims} {used : Secret}
    (valid : authority.Valid) (unstamped : authority.stamp = none)
    (calm : start.troubles = {}) (epoch : 0 ≤ start.wall)
    (never : occasion.cancellation = .never)
    (fair : ∀ length bytes, occasion.random length = .ok bytes → bytes.length = length)
    (issued : start.attempt occasion.facilities (authority.issue subject permissions) =
      (.ok token, middle))
    (smooth : ∀ turn ∈ turns, turn.Smooth)
    (spares : middle.Spares Call.operation (Secret.key subject) turns)
    (era : (middle.after Call.operation turns).wall / 1000 < UInt64.size)
    (accepted : authority.codec.decode (middle.after Call.operation turns).now token used =
      .ok claims)
    {facilities : Deployment.Facilities Store} (undisturbed : facilities.cancellation = .never)
    (required : Permission) :
    ((middle.after Call.operation turns).attempt facilities (authority.verify token required)).1 =
        .ok (permissions.hasAll required) ∨
      authority.settings.secretTtl.toNat = authority.settings.tokenLifetime.toNat +
          authority.settings.leeway.toNat ∧
        start.clock + authority.settings.secretTtlSpan ≤
          (middle.after Call.operation turns).clock ∧
        (middle.after Call.operation turns).clock <
          start.clock + authority.settings.secretTtlSpan + Span.second := by
  have ended : (start.run occasion.facilities (authority.issue subject permissions).run).2 =
      middle := congrArg Prod.snd issued
  obtain ⟨secret, full, keeps, encoded⟩ :=
    keeps_issued valid unstamped calm never fair issued
  have early : Elapsed 0 start middle := ended ▸ Deployment.elapsed_run never calm _
  have late : ∃ millis, Elapsed millis middle (middle.after Call.operation turns) :=
    Deployment.elapsed_after smooth early.calm
  have kept : (middle.after Call.operation turns).world.Keeps (Secret.key subject) secret
      (start.clock + authority.settings.secretTtlSpan) :=
    Deployment.keeps_after full spares keeps
  obtain ⟨millis, late⟩ := late
  generalize middle.after Call.operation turns = last at *
  have named := (Claims.check_eq_ok_iff.mp (Token.Codec.encode_eq_ok_iff.mp encoded).1).1
  obtain ⟨readable, inside⟩ := Token.Codec.decode_eq_ok_iff.mp accepted
  obtain ⟨peeked, -⟩ := Token.Codec.decodeIgnoringTime_eq_ok_iff.mp readable
  obtain rfl := Except.ok.inj (peeked.symm.trans (Token.Codec.peek_encode encoded named))
  by_cases visible : last.clock < start.clock + authority.settings.secretTtlSpan
  · left
    refine (attempt_verify undisturbed ?_ ?_ encoded valid.issuer.symm).trans ?_
    · rw [late.calm]
      rfl
    · exact kept.held full visible
    · rw [inside]
      rfl
  · right
    have elapsed := early.trans late
    rw [Nat.zero_add] at elapsed
    have soon := millis_lt_of_seconds elapsed epoch era
      (Nat.add_assoc .. ▸ now_le_of_window valid inside)
    have late := Nat.not_lt.mp visible
    obtain ⟨tight, short⟩ := tight_of_late valid elapsed soon late
    exact ⟨tight, late, short⟩

/-- An authority that keeps secrets just as long as its tokens count, and stamps them by the clock. -/
def sampleTight : Authority :=
  ⟨{ Settings.standard with secretTtl := 905 }, ⟨"tokenauth", 5, .hs256⟩, none⟩

theorem sampleTight_valid : sampleTight.Valid := rfl

/-- It issues a token, at the start of second 1000. -/
def sampleIssued : Except AuthError String × Deployment Store :=
  Deployment.sampleStart.attempt (sampleOccasion 7).facilities (sampleTight.issue "ann" .readAccount)

theorem sampleIssued_eq : sampleIssued.1 = .ok sampleToken := rfl

/-- Just before that time is over, the token is good for its permissions. -/
theorem verify_of_accepted_just_before :
    ((sampleIssued.2.after Call.operation [.wait 904999]).attempt (sampleOccasion 7).facilities
      (sampleTight.verify sampleToken .readAccount)).1 = .ok true := by
  have issued : Deployment.sampleStart.attempt (sampleOccasion 7).facilities
      (sampleTight.issue "ann" .readAccount) = (.ok sampleToken, sampleIssued.2) :=
    Prod.ext sampleIssued_eq rfl
  have second : (sampleIssued.2.after Call.operation [.wait 904999]).now = 1904 := rfl
  have wall : (sampleIssued.2.after Call.operation [.wait 904999]).wall = 1904999 := rfl
  have clock : (sampleIssued.2.after Call.operation [.wait 904999]).clock =
    Span.ofMillis 904999 := rfl
  have era : (sampleIssued.2.after Call.operation [.wait 904999]).wall / 1000 < UInt64.size := by
    rw [wall]
    decide
  have accepted : sampleTight.codec.decode 1904 sampleToken sampleSecret = .ok sampleClaims :=
    (Token.Codec.decode_encode encode_sampleClaims rfl).trans (by decide)
  rw [← second] at accepted
  rcases verify_of_accepted sampleTight_valid rfl rfl (by decide) rfl (sampleOccasion_fair 7) issued
    (Turn.smooth_wait 904999) (Deployment.spares_wait 904999) era accepted (show (sampleOccasion 7).facilities.cancellation = .never from rfl) .readAccount with
    good | ⟨-, late, -⟩
  · rw [good]
    decide
  · rw [clock] at late
    exact absurd late (by decide)

/-- In the last second of its token, the secret is gone, though the token is still accepted under it. -/
theorem unknownSubject_in_last_second :
    sampleTight.Valid ∧ sampleIssued.1 = .ok sampleToken ∧
      sampleTight.codec.decode (sampleIssued.2.advance 905000).now sampleToken sampleSecret =
        .ok sampleClaims ∧
      ((sampleIssued.2.advance 905000).attempt (sampleOccasion 7).facilities
        (sampleTight.verify sampleToken .readAccount)).1 = .error .unknownSubject := by
  have second : (sampleIssued.2.advance 905000).now = 1905 := rfl
  have gone : (sampleIssued.2.advance 905000).world.held (Secret.key "ann") = none := by
    decide +kernel
  refine ⟨sampleTight_valid, sampleIssued_eq, ?_, ?_⟩
  · rw [second]
    exact (Token.Codec.decode_encode encode_sampleClaims rfl).trans (by decide)
  · exact attempt_verify_of_gone rfl peek_sampleToken rfl gone

end Signet.Authority
