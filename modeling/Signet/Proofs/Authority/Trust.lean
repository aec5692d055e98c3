import Signet.Proofs.Authority.Path
import Signet.Proofs.Settings

/-! What the authority trusts. A token is accepted only if its text is signed with a secret that the
store has answered for the subject that it names, whatever the token is and whatever the store
answers. -/

namespace Signet.Authority

variable {authority : Authority} {subject token : String} {required : Permission}
  {exchanges : List Exchange}

/-- The authority that its settings ask for, whatever its stamp is. -/
def Valid (authority : Authority) : Prop :=
  ofSettings authority.settings = .ok { authority with stamp := none }

theorem Valid.codec_eq (valid : authority.Valid) : ∃ algorithm,
    authority.codec = ⟨authority.settings.issuer, authority.settings.leeway, algorithm⟩ := by
  simp only [Valid, ofSettings, Token.bind_eq_ok_iff, Token.Codec.ofSettings] at valid
  obtain ⟨_, -, codec, ⟨algorithm, -, made⟩, same⟩ := valid
  cases made
  injection same with same
  exact ⟨algorithm, congrArg Authority.codec same.symm⟩

theorem Valid.issuer (valid : authority.Valid) :
    authority.codec.issuer = authority.settings.issuer := by
  obtain ⟨algorithm, same⟩ := valid.codec_eq
  rw [same]

theorem Valid.leeway (valid : authority.Valid) :
    authority.codec.leeway = authority.settings.leeway := by
  obtain ⟨algorithm, same⟩ := valid.codec_eq
  rw [same]

/-- An authority is made only for settings that are sound. -/
theorem Valid.sound (valid : authority.Valid) : authority.settings.Sound := by
  simp only [Valid, ofSettings, Token.bind_eq_ok_iff] at valid
  obtain ⟨_, passed, -⟩ := valid
  exact Settings.validate_eq_ok_iff.mp passed

/-- Valid settings ask for secrets of the least length or longer. -/
theorem Valid.leastSecretLength_le (valid : authority.Valid) :
    Settings.leastSecretLength ≤ authority.settings.secretLength.toNat :=
  valid.sound.secretLength

/-- Valid settings ask for secrets that are not empty. -/
theorem Valid.secretLength_pos (valid : authority.Valid) :
    0 < authority.settings.secretLength.toNat :=
  Nat.lt_of_lt_of_le (by decide) valid.leastSecretLength_le

/-- Valid settings keep secrets no longer than a store accepts. -/
theorem Valid.secretTtl_le (valid : authority.Valid) :
    authority.settings.secretTtl.toNat ≤ Settings.greatestTtl :=
  valid.sound.secretTtl

/-- Valid settings keep secrets at least for the lifetime of a token and the leeway. -/
theorem Valid.covers_token (valid : authority.Valid) :
    authority.settings.tokenLifetime.toNat + authority.settings.leeway.toNat ≤
      authority.settings.secretTtl.toNat :=
  valid.sound.covers

/-- Valid settings keep secrets for some time. -/
theorem Valid.secretTtlSpan_pos (valid : authority.Valid) :
    0 < authority.settings.secretTtlSpan := by
  have covers := valid.sound.covers
  have lives := valid.sound.leeway
  exact Nat.mul_pos (by omega) (by decide)

/-- A secret that is drawn at the length that the settings ask for is not empty. -/
theorem Valid.isEmpty_eq_false {fresh : Secret} (valid : authority.Valid)
    (long : fresh.length = authority.settings.secretLength.toNat) : fresh.isEmpty = false := by
  have pos := valid.secretLength_pos
  rw [← long, Secret.length] at pos
  rw [Secret.isEmpty, List.isEmpty_eq_false_iff]
  exact List.ne_nil_of_length_pos pos

section

variable {answer : Except AuthError (Option Secret)}

private theorem error_of_filtered {error : AuthError}
    (read : Except.error error = answer.map (Option.filter (!·.isEmpty))) :
    answer = .error error := by
  cases answer with
  | error other => exact read.symm
  | ok found => cases read

private theorem none_of_filtered (read : .ok none = answer.map (Option.filter (!·.isEmpty))) :
    ∃ found, answer = .ok found ∧ found.filter (!·.isEmpty) = none := by
  cases answer with
  | error error => cases read
  | ok found => exact ⟨found, rfl, (Except.ok.inj read).symm⟩

private theorem some_of_filtered {secret : Secret}
    (read : .ok (some secret) = answer.map (Option.filter (!·.isEmpty))) :
    answer = .ok (some secret) ∧ secret.isEmpty = false := by
  cases answer with
  | error error => cases read
  | ok found =>
    obtain ⟨rfl, full⟩ := Option.filter_eq_some_iff.mp (Except.ok.inj read).symm
    exact ⟨rfl, by simpa using full⟩

end

private theorem decode_path {secret : Secret} {result : Except AuthError Claims}
    (yields : (authority.decode token secret).run.Yields exchanges result) :
    ∃ moment, ⟨.time, moment⟩ ∈ exchanges ∧
      result = authority.codec.decode moment token secret := by
  unfold decode at yields
  obtain ⟨_, _, moment, rfl, asked, last⟩ := Attempt.yields_lift_bind_iff.mp yields
  obtain rfl := Operation.yields_query_iff.mp asked
  obtain ⟨rfl, rfl⟩ := Operation.yields_pure_iff.mp last
  exact ⟨moment, List.mem_singleton.mpr rfl, rfl⟩

/-- A second secret with which the token is checked has been answered by the store like the first. -/
private theorem reverify_path {tried : Secret} {result : Except AuthError Claims}
    (yields : (authority.reverify token subject tried).run.Yields exchanges result) :
    (∃ error, authority.look subject (.error error) ∈ exchanges ∧ result = .error error) ∨
    result = .error .badSignature ∨
    ∃ secret moment, authority.look subject (.ok (some secret)) ∈ exchanges ∧
      secret.isEmpty = false ∧ ⟨.time, moment⟩ ∈ exchanges ∧
      result = authority.codec.decode moment token secret := by
  unfold reverify at yields
  rw [Attempt.run_bind, Operation.yields_bind_iff] at yields
  obtain ⟨_, _, found, rfl, asked, later⟩ := yields
  obtain ⟨answer, rfl, read⟩ := currentSecret_path asked
  rcases found with error | _ | fresh
  · obtain ⟨-, rfl⟩ := Operation.yields_pure_iff.mp later
    obtain rfl := error_of_filtered read
    exact .inl ⟨error, by simp, rfl⟩
  · obtain ⟨-, rfl⟩ := Operation.yields_pure_iff.mp later
    exact .inr (.inl rfl)
  · obtain ⟨rfl, full⟩ := some_of_filtered read
    dsimp only at later
    split at later
    case isTrue changed =>
      obtain ⟨_, _, _, rfl, _, last⟩ := Attempt.yields_lift_bind_iff.mp later
      obtain ⟨moment, timed, decoded⟩ := decode_path last
      exact .inr (.inr ⟨fresh, moment, by simp, full, by simp [timed], decoded⟩)
    case isFalse same =>
      obtain ⟨-, rfl⟩ := Operation.yields_pure_iff.mp later
      exact .inr (.inl rfl)

private theorem accept_path {hint : Claims} {secret : Secret} {result : Except AuthError Claims}
    (yields : (authority.accept token hint secret).run.Yields exchanges result) :
    (∃ error, authority.look hint.subject (.error error) ∈ exchanges ∧ result = .error error) ∨
    ∃ used moment, (used = secret ∨ authority.look hint.subject (.ok (some used)) ∈ exchanges ∧
      used.isEmpty = false) ∧ ⟨.time, moment⟩ ∈ exchanges ∧
      result = authority.codec.decode moment token used := by
  unfold accept at yields
  obtain ⟨_, _, moment, rfl, asked, later⟩ := Attempt.yields_lift_bind_iff.mp yields
  obtain rfl := Operation.yields_query_iff.mp asked
  -- Unless the second look finds another secret, what the first has found stands.
  have stands : ∀ {rest : List Exchange}, result = authority.codec.decode moment token secret →
      ∃ used again, (used = secret ∨
        authority.look hint.subject (.ok (some used)) ∈ [⟨.time, moment⟩] ++ rest ∧
          used.isEmpty = false) ∧ ⟨.time, again⟩ ∈ [⟨.time, moment⟩] ++ rest ∧
        result = authority.codec.decode again token used :=
    fun same => ⟨secret, moment, .inl rfl, by simp, same⟩
  split at later
  case h_1 found decoded =>
    obtain ⟨-, rfl⟩ := Operation.yields_pure_iff.mp later
    exact .inr (stands decoded.symm)
  case h_2 failed =>
    split at later
    case isTrue young =>
      rcases reverify_path later with ⟨error, answered, rfl⟩ | rfl |
        ⟨used, again, answered, full, timed, decoded⟩
      · exact .inl ⟨error, by simp [answered], rfl⟩
      · exact .inr (stands failed.symm)
      · exact .inr ⟨used, again, .inr ⟨by simp [answered], full⟩, by simp [timed], decoded⟩
    case isFalse old =>
      obtain ⟨-, rfl⟩ := Operation.yields_pure_iff.mp later
      exact .inr (stands failed.symm)
  case h_3 error other failed =>
    obtain ⟨-, rfl⟩ := Operation.yields_pure_iff.mp later
    exact .inr (stands failed.symm)

/-- What the answer to a verification rests on. -/
inductive Rests (authority : Authority) (token : String) (required : Permission)
    (exchanges : List Exchange) : Except AuthError Bool → Prop where
  /-- The token cannot be read. -/
  | unread {error : AuthError} (unread : Token.peek token = .error error) :
      Rests authority token required exchanges (.error error)
  /-- A call to the store has failed. -/
  | unanswered {hint : Claims} {error : AuthError} (peeked : Token.peek token = .ok hint)
      (failed : authority.look hint.subject (.error error) ∈ exchanges) :
      Rests authority token required exchanges (.error error)
  /-- The store has no secret for the subject that the token names. -/
  | unknown {hint : Claims} {found : Option Secret} (peeked : Token.peek token = .ok hint)
      (answered : authority.look hint.subject (.ok found) ∈ exchanges)
      (none : found.filter (!·.isEmpty) = none) :
      Rests authority token required exchanges (.error .unknownSubject)
  /-- The token has been checked at some moment with a secret that the store has answered. -/
  | judged {hint : Claims} {secret : Secret} {moment : Timestamp}
      (peeked : Token.peek token = .ok hint)
      (answered : authority.look hint.subject (.ok (some secret)) ∈ exchanges)
      (full : secret.isEmpty = false) (timed : ⟨.time, moment⟩ ∈ exchanges) :
      Rests authority token required exchanges
        ((authority.codec.decode moment token secret).map (·.permissions.hasAll required))

/-- However a verification ends, it rests on one of these. -/
theorem verify_rests {result : Except AuthError Bool}
    (yields : (authority.verify token required).run.Yields exchanges result) :
    authority.Rests token required exchanges result := by
  unfold verify at yields
  cases peeked : Token.peek token with
  | error error =>
    rw [peeked] at yields
    obtain ⟨-, rfl⟩ := Operation.yields_pure_iff.mp yields
    exact .unread peeked
  | ok hint =>
    rw [peeked, Attempt.ofResult_ok_bind, Attempt.run_bind, Operation.yields_bind_iff] at yields
    obtain ⟨_, _, found, rfl, asked, later⟩ := yields
    obtain ⟨answer, rfl, read⟩ := currentSecret_path asked
    rcases found with error | _ | secret
    · obtain ⟨-, rfl⟩ := Operation.yields_pure_iff.mp later
      obtain rfl := error_of_filtered read
      exact .unanswered peeked (by simp)
    · obtain rfl := reject_path later
      obtain ⟨found, rfl, none⟩ := none_of_filtered read
      exact .unknown peeked (by simp) none
    · obtain ⟨rfl, full⟩ := some_of_filtered read
      dsimp only at later
      rw [Attempt.run_bind, Operation.yields_bind_iff] at later
      obtain ⟨_, last, verdict, rfl, checked, ended⟩ := later
      obtain ⟨front, back, rfl, accepted⟩ := rejecting_path checked
      have given : result = verdict.map (·.permissions.hasAll required) := by
        cases verdict with
        | error error => exact (Operation.yields_pure_iff.mp ended).2.symm
        | ok claims =>
          obtain ⟨_, _, _, rfl, _, done⟩ := Attempt.yields_lift_bind_iff.mp ended
          exact (Operation.yields_pure_iff.mp done).2.symm
      rcases accept_path accepted with ⟨error, failed, rfl⟩ |
        ⟨used, moment, origin, timed, rfl⟩
      · rw [given]
        exact .unanswered peeked (by simp [failed])
      · rw [given]
        rcases origin with rfl | ⟨again, full⟩
        · exact .judged peeked (by simp) full (by simp [timed])
        · exact .judged peeked (by simp [again]) full (by simp [timed])

/-- An answer to a verification rests on a secret that the store has answered for the subject that
the token names. -/
theorem verify_ok_path {allowed : Bool}
    (yields : (authority.verify token required).run.Yields exchanges (.ok allowed)) :
    ∃ hint secret moment claims, Token.peek token = .ok hint ∧
      authority.look hint.subject (.ok (some secret)) ∈ exchanges ∧ secret.isEmpty = false ∧
      ⟨.time, moment⟩ ∈ exchanges ∧ authority.codec.decode moment token secret = .ok claims ∧
      allowed = claims.permissions.hasAll required := by
  generalize told : Except.ok allowed = result at yields
  cases verify_rests yields with
  | unread => cases told
  | unanswered => cases told
  | unknown => cases told
  | @judged hint secret moment peeked answered full timed =>
    cases decoded : authority.codec.decode moment token secret with
    | error error =>
      rw [decoded] at told
      cases told
    | ok claims =>
      rw [decoded] at told
      exact ⟨hint, secret, moment, claims, peeked, answered, full, timed, decoded,
        Except.ok.inj told⟩

private theorem yields_currentSecret {secret : Secret} (full : secret.isEmpty = false) :
    (authority.currentSecret subject).run.Yields [authority.look subject (.ok (some secret))]
      (.ok (some secret)) := by
  refine Attempt.yields_bind_iff.mpr
    ⟨[_], [], some secret, rfl, Attempt.yields_store_iff.mpr rfl, ?_⟩
  refine Attempt.yields_pure_iff.mpr ⟨rfl, ?_⟩
  simp [full]

/-- A secret that has signed the token makes it be accepted inside its window. -/
theorem yields_verify {secret : Secret} {claims : Claims} {moment : Timestamp}
    (peeked : Token.peek token = .ok claims) (full : secret.isEmpty = false)
    (decoded : authority.codec.decode moment token secret = .ok claims) :
    ∃ event, (authority.verify token required).run.Yields
      [authority.look claims.subject (.ok (some secret)), ⟨.time, moment⟩, ⟨.report event, ()⟩]
      (.ok (claims.permissions.hasAll required)) := by
  have accepted : (authority.accept token claims secret).run.Yields [⟨.time, moment⟩]
      (.ok claims) := by
    refine Attempt.yields_lift_bind_iff.mpr
      ⟨[_], [], moment, rfl, Operation.yields_query_iff.mpr rfl, ?_⟩
    rw [decoded]
    exact Attempt.yields_pure_iff.mpr ⟨rfl, rfl⟩
  constructor
  refine Attempt.yields_bind_iff.mpr
    ⟨[], _, claims, rfl, Attempt.yields_ofResult_iff.mpr ⟨rfl, peeked⟩, ?_⟩
  refine Attempt.yields_bind_iff.mpr ⟨[_], _, some secret, rfl, yields_currentSecret full, ?_⟩
  refine Attempt.yields_bind_iff.mpr ⟨[_], _, claims, rfl, ?_, ?_⟩
  · rw [rejecting, Attempt.yields_tryCatch_iff (not_yields_reject claims.subject)]
    exact accepted
  refine Attempt.yields_lift_bind_iff.mpr
    ⟨[_], [], (), rfl, Operation.yields_query_iff.mpr rfl, ?_⟩
  exact Attempt.yields_pure_iff.mpr ⟨rfl, rfl⟩

/-- A secret that has signed the token makes it revoke its subject, whenever that is. -/
theorem yields_revoke {secret : Secret} {hint claims : Claims}
    (peeked : Token.peek token = .ok hint) (full : secret.isEmpty = false)
    (decoded : authority.codec.decodeIgnoringTime token secret = .ok claims) :
    ∃ event, (authority.revoke token).run.Yields
      [authority.look hint.subject (.ok (some secret)), authority.drop hint.subject (.ok ()),
        ⟨.report event, ()⟩] (.ok ()) := by
  have checked : (rejecting hint.subject (Attempt.ofResult
      (authority.codec.decodeIgnoringTime token secret))).run.Yields [] (.ok claims) := by
    rw [rejecting, Attempt.yields_tryCatch_iff (not_yields_reject hint.subject)]
    exact Attempt.yields_ofResult_iff.mpr ⟨rfl, decoded⟩
  constructor
  refine Attempt.yields_bind_iff.mpr
    ⟨[], _, hint, rfl, Attempt.yields_ofResult_iff.mpr ⟨rfl, peeked⟩, ?_⟩
  refine Attempt.yields_bind_iff.mpr ⟨[_], _, some secret, rfl, yields_currentSecret full, ?_⟩
  refine Attempt.yields_bind_iff.mpr ⟨[], _, claims, rfl, checked, ?_⟩
  refine Attempt.yields_bind_iff.mpr ⟨[_], [_], (), rfl, Attempt.yields_store_iff.mpr rfl, ?_⟩
  exact Operation.yields_bind_iff.mpr
    ⟨[_], [], (), rfl, Operation.yields_query_iff.mpr rfl, .here _⟩

/-- The last segment of a token is the tag of the others, under a secret and the algorithm that the
first segment names. -/
def Tagged (token : String) (secret : Secret) : Prop :=
  ∃ (header payload signature text : Bytes) (algorithm : Algorithm),
    Token.segments Token.point (Text.utf8 token) = [header, payload, signature] ∧
    Base64Url.decode header = .ok text ∧
    Json.decode Token.readAlgorithmName text = .ok algorithm.name ∧
    signature = Base64Url.encode (algorithm.mac secret.bytes (header ++ Token.point :: payload))

theorem tagged_of_signedUnder {secret : Secret} (signed : Token.SignedUnder token secret) :
    Tagged token secret := by
  obtain ⟨parts, algorithm, read, named, signature⟩ := signed
  obtain ⟨text, decoded, name⟩ := Token.Parts.named_of_algorithm named
  exact ⟨parts.header, parts.payload, parts.signature, text, algorithm,
    Token.Parts.segments_of_ofText read, decoded, name, signature⟩

/-- Why a token is accepted at a moment: the claims that a peek finds in it, and the secret that the
store has answered for their subject. -/
structure Grounds (authority : Authority) (token : String) (exchanges : List Exchange)
    (claims : Claims) (secret : Secret) (moment : Timestamp) : Prop where
  peeked : Token.peek token = .ok claims
  named : claims.subject ≠ ""
  answered : authority.look claims.subject (.ok (some secret)) ∈ exchanges
  full : secret.bytes ≠ []
  tagged : Tagged token secret
  issuer : claims.issuer = authority.settings.issuer
  ordered : claims.issuedAt ≤ claims.notBefore ∧ claims.notBefore ≤ claims.expiresAt
  timed : ⟨.time, moment⟩ ∈ exchanges
  started : claims.notBefore.toNat ≤ moment.toNat + authority.settings.leeway.toNat
  lasts : moment.toNat ≤ claims.expiresAt.toNat + authority.settings.leeway.toNat

/-- Whatever the token is and whatever the store answers, a token is only accepted on these grounds;
the answer then says whether its claims carry the permissions required. -/
theorem grounds_of_verify_ok (valid : authority.Valid) {allowed : Bool}
    (late : ∀ moment, ⟨.time, moment⟩ ∈ exchanges → authority.settings.leeway ≤ moment)
    (accepted : (authority.verify token required).run.Yields exchanges (.ok allowed)) :
    ∃ claims secret moment, authority.Grounds token exchanges claims secret moment ∧
      allowed = claims.permissions.hasAll required := by
  obtain ⟨hint, secret, moment, claims, peeked, answered, full, timed, decoded, same⟩ :=
    verify_ok_path accepted
  -- Both readings of the token split it alike, so the peek has found what the secret has signed.
  obtain ⟨parts, algorithm, stated, read, named, -, payload, found, subject⟩ :=
    Token.peek_eq_ok peeked
  obtain ⟨others, other, again, readAgain, namedAgain, signature, payloadAgain, foundAgain, window,
    issuer, check⟩ := Token.Codec.decode_eq_ok decoded
  cases readAgain.symm.trans read
  cases payloadAgain.symm.trans payload
  obtain rfl : hint = claims := found.symm.trans foundAgain
  obtain ⟨-, ordered⟩ := Claims.check_eq_ok_iff.mp check
  rw [valid.issuer] at issuer
  have small := late moment timed
  rw [← valid.leeway] at small
  obtain ⟨started, lasts⟩ := Token.Codec.checkWindow_eq_ok window small
  rw [valid.leeway] at started lasts
  have some : secret.bytes ≠ [] := by
    intro none
    simp [Secret.isEmpty, none] at full
  have tagged := tagged_of_signedUnder ⟨parts, other, read, namedAgain, signature⟩
  exact ⟨hint, secret, moment,
    ⟨peeked, subject, answered, some, tagged, issuer, ordered, timed, started, lasts⟩, same⟩

/-- The authority that the standard settings ask for, with tokens stamped at second 1000. -/
def sample : Authority := ⟨Settings.standard, ⟨"tokenauth", 5, .hs256⟩, some 1000⟩

theorem sample_valid : sample.Valid := rfl

/-- What it states in a token. -/
def sampleClaims : Claims := ⟨"ann", .readAccount, 1000, 1000, 1900, "tokenauth"⟩

def sampleSecret : Secret := ⟨List.replicate 32 7⟩

def sampleToken : String := Token.ofParts (sample.codec.parts sampleClaims sampleSecret)

theorem encode_sampleClaims : sample.codec.encode sampleClaims sampleSecret = .ok sampleToken :=
  Token.Codec.encode_eq_ok_iff.mpr ⟨rfl, rfl⟩

theorem peek_sampleToken : Token.peek sampleToken = .ok sampleClaims :=
  Token.Codec.peek_encode encode_sampleClaims (by decide)

/-- The sample token is accepted 200 seconds after it was issued. -/
theorem grounds_of_sampleToken : ∃ exchanges,
    (sample.verify sampleToken .readAccount).run.Yields exchanges (.ok true) ∧
    ∃ claims secret moment, sample.Grounds sampleToken exchanges claims secret moment ∧
      true = claims.permissions.hasAll .readAccount := by
  have decoded : sample.codec.decode 1200 sampleToken sampleSecret = .ok sampleClaims := by
    rw [Token.Codec.decode_encode encode_sampleClaims rfl]
    rfl
  obtain ⟨told, accepted⟩ := yields_verify peek_sampleToken rfl decoded
  have late : ∀ moment, ⟨.time, moment⟩ ∈ [sample.look "ann" (.ok (some sampleSecret)),
      ⟨.time, (1200 : Timestamp)⟩, ⟨.report told, ()⟩] → sample.settings.leeway ≤ moment := by
    intro moment read
    obtain rfl : moment = 1200 := by simpa using read
    decide
  exact ⟨_, accepted, grounds_of_verify_ok sample_valid late accepted⟩

end Signet.Authority
