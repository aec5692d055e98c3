import Signet.Proofs.Token.Acceptance

/-! What becomes of claims that are written into a token: every reader finds them again, whatever
their texts, numbers and times are, and no other claims are written into the same token. -/

namespace Signet.Token.Codec

variable {codec : Codec} {now : Timestamp} {token : String} {secret : Secret} {claims : Claims}
  {settings : Settings} {algorithm : Algorithm}

theorem ofSettings_eq_ok (supported : settings.signingAlgorithm = .ok algorithm) :
    ofSettings settings = .ok ⟨settings.issuer, settings.leeway, algorithm⟩ := by
  rw [ofSettings, supported]
  rfl

theorem encode_eq_error {error : AuthError} (refused : claims.check = .error error) :
    codec.encode claims secret = .error error := by
  rw [encode, refused]
  rfl

theorem segments_of_encode (encoded : codec.encode claims secret = .ok token) :
    ∃ header payload signature,
      segments point (Text.utf8 token) = [header, payload, signature] ∧
      header ≠ [] ∧ payload ≠ [] ∧ signature ≠ [] := by
  have reading := reading_of_encode encoded
  refine ⟨_, _, _, Parts.segments_of_ofText reading.read, ?_, ?_, ?_⟩
  · exact Base64Url.encode_ne_nil (by simp [headerJson, Json.Print.object])
  · exact Base64Url.encode_ne_nil (by simp [Claims.json, Json.Print.object])
  · exact Base64Url.encode_ne_nil (Algorithm.mac_ne_nil _ _ _)

theorem inspect_encode (encoded : codec.encode claims secret = .ok token) :
    inspect token = .ok codec.algorithm :=
  inspect_eq_ok_iff.mpr ⟨_, (reading_of_encode encoded).read, (reading_of_encode encoded).named⟩

theorem decodeIgnoringTime_encode (encoded : codec.encode claims secret = .ok token)
    (issuer : claims.issuer = codec.issuer) :
    codec.decodeIgnoringTime token secret = .ok claims := by
  obtain ⟨some, ordered⟩ := Claims.check_eq_ok_iff.mp (encode_eq_ok_iff.mp encoded).1
  exact decodeIgnoringTime_eq_ok_iff.mpr
    ⟨peek_encode encoded some, tagged_of_encode encoded, issuer, ordered⟩

/-- What is written into a token tells the claims. -/
theorem encode_cancel {other : Codec} {others : Claims} {key : Secret}
    (encoded : codec.encode claims secret = .ok token)
    (again : other.encode others key = .ok token) : others = claims := by
  have first := (Claims.check_eq_ok_iff.mp (encode_eq_ok_iff.mp encoded).1).1
  have second := (Claims.check_eq_ok_iff.mp (encode_eq_ok_iff.mp again).1).1
  exact Except.ok.inj ((peek_encode again second).symm.trans (peek_encode encoded first))

/-- The sum of a clock that counts seconds in 63 bits and a leeway that is not above it fits. -/
theorem toNat_add_leeway (small : codec.leeway ≤ now) (dated : now.toNat < instantBound) :
    (now + codec.leeway).toNat = now.toNat + codec.leeway.toNat := by
  rw [UInt64.le_iff_toNat_le] at small
  rw [UInt64.toNat_add, Nat.mod_eq_of_lt]
  simp only [instantBound] at dated
  omega

theorem checkWindow_of_mem (small : codec.leeway ≤ now)
    (started : claims.notBefore ≤ now + codec.leeway)
    (lasts : now.toNat ≤ claims.expiresAt.toNat + codec.leeway.toNat) :
    codec.checkWindow now claims = .ok () := by
  have counts : ¬ claims.expiresAt < now - codec.leeway := by
    rw [UInt64.lt_iff_toNat_lt, UInt64.toNat_sub_of_le _ _ small]
    omega
  rw [checkWindow, if_neg counts, if_neg (UInt64.not_lt.mpr started)]

theorem checkWindow_of_late (late : claims.expiresAt.toNat + codec.leeway.toNat < now.toNat) :
    codec.checkWindow now claims = .error .expired := by
  have small : codec.leeway ≤ now := by
    rw [UInt64.le_iff_toNat_le]
    omega
  have ended : claims.expiresAt < now - codec.leeway := by
    rw [UInt64.lt_iff_toNat_lt, UInt64.toNat_sub_of_le _ _ small]
    omega
  rw [checkWindow, if_pos ended]

/-- Sound claims can be written with any settings that name an algorithm, and under any secret. Three
full segments hold them; every reader finds them again, the readers that check the issuer if it is
that of the settings, and the one that checks the window inside it. -/
theorem read_of_written (supported : settings.signingAlgorithm = .ok algorithm)
    (sound : claims.check = .ok ()) (secret : Secret) : ∃ codec token,
    ofSettings settings = .ok codec ∧ codec.encode claims secret = .ok token ∧
    (∃ header payload signature,
      segments point (Text.utf8 token) = [header, payload, signature] ∧
      header ≠ [] ∧ payload ≠ [] ∧ signature ≠ []) ∧
    inspect token = .ok algorithm ∧ peek token = .ok claims ∧
    (claims.issuer = settings.issuer →
      codec.decodeIgnoringTime token secret = .ok claims ∧
      ∀ now : Timestamp, settings.leeway ≤ now →
        -- Readers add the leeway in 64 bits, which no clock of 63 bits exceeds.
        (now.toNat < instantBound →
          (now + settings.leeway).toNat = now.toNat + settings.leeway.toNat) ∧
        (claims.notBefore ≤ now + settings.leeway →
          now.toNat ≤ claims.expiresAt.toNat + settings.leeway.toNat →
          codec.decode now token secret = .ok claims)) ∧
    (∀ others, codec.encode others secret = .ok token → others = claims) ∧
    ∀ others error, others.check = .error error → ∀ key, codec.encode others key = .error error := by
  obtain ⟨codec, made, same⟩ : ∃ codec, ofSettings settings = .ok codec ∧
      codec = ⟨settings.issuer, settings.leeway, algorithm⟩ :=
    ⟨_, ofSettings_eq_ok supported, rfl⟩
  have issuers : codec.issuer = settings.issuer := by rw [same]
  have leeways : codec.leeway = settings.leeway := by rw [same]
  have algorithms : codec.algorithm = algorithm := by rw [same]
  have encoded : codec.encode claims secret = .ok (ofParts (codec.parts claims secret)) :=
    encode_eq_ok_iff.mpr ⟨sound, rfl⟩
  have some := (Claims.check_eq_ok_iff.mp sound).1
  refine ⟨codec, _, made, encoded, segments_of_encode encoded, ?_, peek_encode encoded some, ?_,
    fun others again => encode_cancel encoded again, fun others error refused key =>
    encode_eq_error refused⟩
  · rw [inspect_encode encoded, algorithms]
  · intro issuer
    rw [← issuers] at issuer
    refine ⟨decodeIgnoringTime_encode encoded issuer, ?_⟩
    rw [← leeways]
    intro now small
    refine ⟨toNat_add_leeway small, fun started lasts => ?_⟩
    rw [decode_encode encoded issuer, checkWindow_of_mem small started lasts]
    rfl

/-- Claims with escapes of all kinds, written under no bytes at all, are read back from their token. -/
theorem read_of_sampleClaims : ∃ codec token,
    ofSettings { Settings.standard with issuer := sample.issuer, algorithm := "HS512" } = .ok codec ∧
    codec.encode sampleClaims ⟨[]⟩ = .ok token ∧ peek token = .ok sampleClaims ∧
    codec.decode 1905 token ⟨[]⟩ = .ok sampleClaims := by
  have sound : sampleClaims.check = .ok () :=
    Claims.check_eq_ok_iff.mpr ⟨by simp [sampleClaims], by decide, by decide⟩
  have supported : Settings.signingAlgorithm
      { Settings.standard with issuer := sample.issuer, algorithm := "HS512" } = .ok .hs512 := rfl
  obtain ⟨codec, token, made, encoded, -, -, peeked, checked, -⟩ :=
    read_of_written supported sound ⟨[]⟩
  obtain ⟨-, windows⟩ := checked rfl
  exact ⟨codec, token, made, encoded, peeked, (windows 1905 (by decide)).2 (by decide) (by decide)⟩

end Signet.Token.Codec
