import Signet.Proofs.Authority.Atomicity
import Signet.Proofs.Authority.Withdrawal
import Signet.Proofs.Token.Tag

/-! Tokens whose signature has been changed. Nothing else is found to be wrong with them, whatever they
state, whoever looks at them and when; and they change nothing. -/

namespace Signet.Authority

open Token (joined tag IsSegment)

variable {authority : Authority} {token subject : String} {required : Permission}
  {permissions : Permission} {exchanges : List Exchange} {hint : Claims} {secret : Secret}

/-- As often as the secret of a subject is read, it is found to be this one. -/
def Told (authority : Authority) (subject : String) (secret : Secret)
    (exchanges : List Exchange) : Prop :=
  ∀ answer, authority.look subject answer ∈ exchanges → answer = .ok (some secret)

/-- A verification that is told of no secret but one that has not signed the token. -/
theorem verify_of_told {result : Except AuthError Bool} (peeked : Token.peek token = .ok hint)
    (full : secret.isEmpty = false) (strange : ¬ Token.Tagged token secret)
    (told : authority.Told hint.subject secret exchanges)
    (yields : (authority.verify token required).run.Yields exchanges result) :
    result = .error .badSignature := by
  cases verify_rests yields with
  | unread unread => cases unread.symm.trans peeked
  | unanswered again failed =>
    cases peeked.symm.trans again
    cases told _ failed
  | unknown again answered none =>
    cases peeked.symm.trans again
    cases told _ answered
    simp [Option.filter, full] at none
  | judged again answered =>
    cases peeked.symm.trans again
    cases told _ answered
    rw [Token.Codec.decode_of_not_tagged peeked strange]
    rfl

/-- A revocation that is told of no secret but one that has not signed the token. -/
theorem revoke_of_told {result : Except AuthError Unit} (peeked : Token.peek token = .ok hint)
    (full : secret.isEmpty = false) (strange : ¬ Token.Tagged token secret)
    (told : authority.Told hint.subject secret exchanges)
    (yields : (authority.revoke token).run.Yields exchanges result) :
    result = .error .badSignature ∧ ∀ exchange ∈ exchanges, ¬ exchange.query.Writes := by
  rw [revoke, peeked, Attempt.ofResult_ok_bind, Attempt.run_bind, Operation.yields_bind_iff]
    at yields
  obtain ⟨_, _, found, rfl, asked, later⟩ := yields
  obtain ⟨answer, rfl, read⟩ := currentSecret_path asked
  obtain rfl : answer = .ok (some secret) := told answer (by simp)
  obtain rfl : found = .ok (some secret) := by simp [read, Except.map, Option.filter, full]
  dsimp only at later
  rw [Token.Codec.decodeIgnoringTime_of_not_tagged peeked strange, Attempt.run_bind,
    Operation.yields_bind_iff] at later
  obtain ⟨_, _, verdict, rfl, rejected, ended⟩ := later
  have rejected : (reject hint.subject .badSignature : Attempt Claims).run.Yields _ verdict :=
    rejected
  have quiet := (reject_quiet AuthError.badSignature).of_mem rejected
  obtain rfl := reject_path rejected
  obtain ⟨rfl, rfl⟩ := Operation.yields_pure_iff.mp ended
  refine ⟨rfl, ?_⟩
  intro exchange member
  rcases List.mem_cons.mp member with rfl | others
  · exact not_false
  · exact Query.Quiet.not_writes (quiet exchange (by simpa using others))

/-- The signature of an issued token is the tag under the secret that was claimed for it. -/
theorem tag_of_issue {header payload signature : String} {algorithm : Algorithm} {fresh : Secret}
    (named : Token.inspect (joined header payload signature) = .ok algorithm)
    (issued : (authority.issue subject permissions).run.Yields exchanges
      (.ok (joined header payload signature)))
    (claimed : authority.claim subject fresh (.ok secret) ∈ exchanges) :
    signature = tag algorithm secret header payload := by
  obtain ⟨-, drawn, live, others, rfl, quiet, _, _, -, -, encoded⟩ := issue_ok_path issued
  obtain rfl : secret = live := by
    rcases List.mem_cons.mp claimed with same | later
    · cases same
    · rcases List.mem_cons.mp later with same | told
      · cases same
        rfl
      · exact (quiet _ told).elim
  exact (Token.tagged_joined_iff named).mp (Token.Codec.tagged_of_encode encoded)

/-- Where nothing goes wrong, a token that the visible secret has not signed is found badly signed, and
nothing is done about it. -/
theorem attempt_of_strange {facilities : Deployment.Facilities Store} {deployment : Deployment Store}
    (never : facilities.cancellation = .never) (calm : deployment.troubles = {})
    (peeked : Token.peek token = .ok hint)
    (held : deployment.world.held (Secret.key hint.subject) = some secret)
    (strange : ¬ Token.Tagged token secret) (required : Permission) :
    (∃ after, deployment.attempt facilities (authority.verify token required) =
        (.error .badSignature, after) ∧ after.store = deployment.store) ∧
      ∃ after, deployment.attempt facilities (authority.revoke token) = (.error .badSignature, after) ∧
        after.store = deployment.store := by
  constructor
  · obtain ⟨after, refused⟩ : ∃ after, deployment.attempt facilities
        (authority.verify token required) = (.error .badSignature, after) :=
      ⟨_, Prod.ext (attempt_verify_of_strange never calm peeked held strange) rfl⟩
    have failed : deployment.attempt facilities (authority.perform (.verify token required)) =
        (.error .badSignature, after) := refused
    exact ⟨after, refused, store_of_failed failed⟩
  · obtain ⟨result, after, ended, -, revokes⟩ := attempt_revoke authority token never calm
    have refused : authority.codec.decodeIgnoringTime token secret = .error .badSignature :=
      Token.Codec.decodeIgnoringTime_of_not_tagged peeked strange
    obtain ⟨rfl, left⟩ := revokes.unique (.refused peeked held refused)
    exact ⟨after, ended, left.symm⟩

/-- Nobody gets another third text past a check of this token. -/
structure Tamperproof (header payload signature : String) (claims : Claims)
    (algorithm : Algorithm) : Prop where
  /-- Another text than the tag has the wrong signature, and nothing else is found; with the tag,
  whatever is found is something else. -/
  refused : ∀ (codec : Token.Codec) now secret other, IsSegment other →
    (codec.decode now (joined header payload other) secret = .error .badSignature ↔
      other ≠ tag algorithm secret header payload) ∧
    (codec.decodeIgnoringTime (joined header payload other) secret = .error .badSignature ↔
      other ≠ tag algorithm secret header payload)
  /-- The tag is the only text that is accepted, -/
  only : ∀ (codec : Token.Codec) now secret other accepted,
    codec.decode now (joined header payload other) secret = .ok accepted ∨
      codec.decodeIgnoringTime (joined header payload other) secret = .ok accepted →
    accepted = claims ∧ other = tag algorithm secret header payload
  /-- and it is, if the claims are in order. -/
  accepted : ∀ (codec : Token.Codec) secret, claims.issuer = codec.issuer →
    claims.issuedAt ≤ claims.notBefore → claims.notBefore ≤ claims.expiresAt →
    codec.decodeIgnoringTime (joined header payload (tag algorithm secret header payload)) secret =
        .ok claims ∧
      ∀ now, codec.decode now (joined header payload (tag algorithm secret header payload)) secret =
        (codec.checkWindow now claims).map fun _ => claims
  /-- If the token has been issued, its own signature is the tag. -/
  issued : ∀ (authority : Authority) subject permissions exchanges fresh secret,
    (authority.issue subject permissions).run.Yields exchanges
      (.ok (joined header payload signature)) →
    authority.claim subject fresh (.ok secret) ∈ exchanges →
    claims.subject = subject ∧ signature = tag algorithm secret header payload
  /-- Whoever is told of one secret only finds the changed token badly signed, -/
  verify : ∀ (authority : Authority) secret other required exchanges result,
    secret.isEmpty = false → IsSegment other → other ≠ tag algorithm secret header payload →
    authority.Told claims.subject secret exchanges →
    (authority.verify (joined header payload other) required).run.Yields exchanges result →
    result = .error .badSignature ∧ ∀ exchange ∈ exchanges, ¬ exchange.query.Writes
  revoke : ∀ (authority : Authority) secret other exchanges result,
    secret.isEmpty = false → IsSegment other → other ≠ tag algorithm secret header payload →
    authority.Told claims.subject secret exchanges →
    (authority.revoke (joined header payload other)).run.Yields exchanges result →
    result = .error .badSignature ∧ ∀ exchange ∈ exchanges, ¬ exchange.query.Writes
  /-- and so it is where nothing goes wrong and the secret is visible. -/
  deployed : ∀ (authority : Authority) (facilities : Deployment.Facilities Store)
    (deployment : Deployment Store) secret other required, facilities.cancellation = .never →
    deployment.troubles = {} → deployment.world.held (Secret.key claims.subject) = some secret →
    IsSegment other → other ≠ tag algorithm secret header payload →
    (∃ after, deployment.attempt facilities
        (authority.verify (joined header payload other) required) = (.error .badSignature, after) ∧
      after.store = deployment.store) ∧
    ∃ after, deployment.attempt facilities (authority.revoke (joined header payload other)) =
        (.error .badSignature, after) ∧ after.store = deployment.store

section

variable {header payload signature other : String} {claims : Claims} {algorithm : Algorithm}

/-- A wrong signature is a bad signature and nothing else. For the first two texts of a token that
states claims and for every secret there is one third text that is accepted, the tag as it is written;
with any other, the token is badly signed for everyone, and neither verifying nor revoking it does
anything. -/
theorem wrong_signature_refused
    (peeked : Token.peek (joined header payload signature) = .ok claims) :
    ∃ algorithm, Token.inspect (joined header payload signature) = .ok algorithm ∧
      Tamperproof header payload signature claims algorithm := by
  obtain ⟨parts, algorithm, stated, reading, -, -⟩ := Token.peek_eq_ok_iff.mp peeked
  have named := Token.inspect_eq_ok_iff.mpr ⟨parts, reading.read, reading.named⟩
  have again : ∀ {other}, IsSegment other →
      Token.peek (joined header payload other) = .ok claims := Token.peek_resign peeked
  have tagged : ∀ {other secret}, IsSegment other →
      (Token.Tagged (joined header payload other) secret ↔
        other = tag algorithm secret header payload) :=
    fun segment => Token.tagged_joined_iff (Token.inspect_resign named segment)
  have strange : ∀ {other secret}, IsSegment other → other ≠ tag algorithm secret header payload →
      ¬ Token.Tagged (joined header payload other) secret :=
    fun segment wrong => mt (tagged segment).mp wrong
  refine ⟨algorithm, named, ?_⟩
  constructor
  case refused =>
    intro codec now secret other segment
    rw [ne_eq, ← tagged segment]
    exact codec.badSignature_iff now (again segment)
  case only =>
    intro codec now secret other accepted either
    have signed : codec.decodeIgnoringTime (joined header payload other) secret = .ok accepted := by
      rcases either with inside | always
      · exact (Token.Codec.decode_eq_ok_iff.mp inside).1
      · exact always
    obtain ⟨found, right, -⟩ := Token.Codec.decodeIgnoringTime_eq_ok_iff.mp signed
    have segment := Token.isSegment_of_peek found
    exact ⟨Except.ok.inj (found.symm.trans (again segment)), (tagged segment).mp right⟩
  case accepted =>
    intro codec secret issuer started ended
    have segment := Token.isSegment_tag algorithm secret header payload
    have signed := Token.Codec.decodeIgnoringTime_eq_ok_iff.mpr
      ⟨again segment, (tagged segment).mpr rfl, issuer, started, ended⟩
    exact ⟨signed, fun now => Token.Codec.decode_of_ignoringTime signed⟩
  case issued =>
    intro authority subject permissions exchanges fresh secret issues claimed
    refine ⟨?_, tag_of_issue named issues claimed⟩
    obtain ⟨-, _, _, _, -, -, _, own, -, stated, encoded⟩ := issue_ok_path issues
    obtain rfl := Claims.issue_eq_ok stated
    have nonempty := (Claims.check_eq_ok_iff.mp (Token.Codec.encode_eq_ok_iff.mp encoded).1).1
    rw [← Except.ok.inj ((Token.Codec.peek_encode encoded nonempty).symm.trans peeked)]
  case verify =>
    intro authority secret other required exchanges result full segment wrong told yields
    exact ⟨verify_of_told (again segment) full (strange segment wrong) told yields,
      verify_silent.of_mem yields⟩
  case revoke =>
    intro authority secret other exchanges result full segment wrong told yields
    exact revoke_of_told (again segment) full (strange segment wrong) told yields
  case deployed =>
    intro authority facilities deployment secret other required never calm held segment wrong
    exact attempt_of_strange never calm (again segment) held (strange segment wrong) required

end

/-- The segments of the sample token as texts. -/
def sampleHeader : String := Text.ofAscii (sample.codec.parts sampleClaims sampleSecret).header

def samplePayload : String := Text.ofAscii (sample.codec.parts sampleClaims sampleSecret).payload

def sampleSignature : String := Text.ofAscii (sample.codec.parts sampleClaims sampleSecret).signature

theorem sampleToken_eq_joined :
    sampleToken = joined sampleHeader samplePayload sampleSignature :=
  Token.ofParts_eq_joined _

/-- The signature of the sample token with a sign behind it that stands for no bits. -/
def samplePadded : String := sampleSignature ++ "="

theorem isSegment_samplePadded (segment : IsSegment sampleSignature) : IsSegment samplePadded where
  full := by
    rw [samplePadded, ne_eq, ← Text.utf8_eq_nil_iff, Text.utf8_append]
    exact List.append_ne_nil_of_right_ne_nil _ (by decide)
  whole := by
    rw [samplePadded, String.toList_append, List.mem_append]
    exact not_or.mpr ⟨segment.whole, by decide⟩

theorem samplePadded_ne : samplePadded ≠ sampleSignature := by
  intro same
  have bytes := congrArg (List.length ∘ Text.utf8) same
  have sign : (Text.utf8 "=").length = 1 := rfl
  simp [samplePadded, sign] at bytes

/-- With that signature the sample token opens nothing and revokes nothing. -/
theorem samplePadded_refused :
    (∃ after, sampleDeployment.attempt (sampleOccasion 9).facilities
        (sample.verify (joined sampleHeader samplePayload samplePadded) .readAccount) =
          (.error .badSignature, after) ∧ after.store = sampleDeployment.store) ∧
    ∃ after, sampleDeployment.attempt (sampleOccasion 9).facilities
        (sample.revoke (joined sampleHeader samplePayload samplePadded)) =
          (.error .badSignature, after) ∧ after.store = sampleDeployment.store := by
  have peeked := peek_sampleToken
  rw [sampleToken_eq_joined] at peeked
  obtain ⟨algorithm, named, proof⟩ := wrong_signature_refused peeked
  have tagged := Token.Codec.tagged_of_encode encode_sampleClaims
  rw [sampleToken_eq_joined, Token.tagged_joined_iff named] at tagged
  have held : sampleDeployment.world.held (Secret.key sampleClaims.subject) = some sampleSecret := by
    decide
  exact proof.deployed sample (sampleOccasion 9).facilities sampleDeployment sampleSecret samplePadded
    .readAccount rfl rfl held (isSegment_samplePadded (Token.isSegment_of_peek peeked))
    (tagged ▸ samplePadded_ne)

end Signet.Authority
