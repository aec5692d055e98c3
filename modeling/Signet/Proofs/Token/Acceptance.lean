import Signet.Proofs.Token.Signature

/-! Which tokens are accepted, exactly. A peek, a check of the signature alone and a check of signature
and times read a token alike, and differ in nothing but what they check of it. -/

namespace Signet

/-- A subject that is not empty has been stated. -/
theorem Claims.named_of_stated {text : Bytes} {stated : Stated}
    (read : Claims.stated text = .ok stated) (some : stated.claims.subject ≠ "") :
    stated.namesSubject = true := by
  have finished : ∀ (last : Draft) (stated : Stated), last.finish = .ok stated →
      stated.claims.subject ≠ "" → stated.namesSubject = true := by
    intro last stated done some
    simp only [Draft.finish, Token.bind_eq_ok_iff] at done
    obtain ⟨_, -, _, -, _, -, _, -, _, -, made⟩ := done
    cases made
    cases given : last.subject with
    | none => exact absurd (by rw [given]; rfl) some
    | some subject => rfl
  have ensures : Reader.Ensures Claims.read fun stated =>
      stated.claims.subject ≠ "" → stated.namesSubject = true := Json.ensures_record finished
  exact Json.of_decode_eq_ok ensures read some

namespace Token

variable {token : String} {secret : Secret} {claims : Claims} {stated : Claims.Stated}

theorem Parts.named_of_stated {parts : Parts} (read : parts.stated = .ok stated)
    (some : stated.claims.subject ≠ "") : stated.namesSubject = true := by
  simp only [Parts.stated, bind_eq_ok_iff] at read
  obtain ⟨text, -, first, found, _, -, last⟩ := read
  cases last
  cases whole : Claims.stated text with
  | error fault =>
    rw [whole] at found
    cases found
  | ok again =>
    rw [whole] at found
    cases found
    exact Claims.named_of_stated whole some

/-- What stands in a token, whoever looks at it: three full segments, whose header names an algorithm
and is acceptable, and whose payload states claims. -/
structure Reading (token : String) (parts : Parts) (algorithm : Algorithm)
    (stated : Claims.Stated) : Prop where
  read : Parts.ofText token = .ok parts
  named : parts.algorithm = .ok algorithm
  header : parts.checkHeader = .ok ()
  payload : parts.stated = .ok stated

theorem inspect_eq_ok_iff {algorithm : Algorithm} : inspect token = .ok algorithm ↔
    ∃ parts, Parts.ofText token = .ok parts ∧ parts.algorithm = .ok algorithm := by
  rw [inspect, bind_eq_ok_iff]

theorem peek_eq_ok_iff : peek token = .ok claims ↔ ∃ parts algorithm stated,
    Reading token parts algorithm stated ∧ stated.claims = claims ∧ claims.subject ≠ "" := by
  constructor
  · intro peeked
    obtain ⟨parts, algorithm, stated, read, named, header, payload, same, some⟩ :=
      peek_eq_ok peeked
    exact ⟨parts, algorithm, stated, ⟨read, named, header, payload⟩, same, some⟩
  · rintro ⟨parts, algorithm, stated, ⟨read, named, header, payload⟩, rfl, some⟩
    simp only [peek, bind_eq_ok_iff, orAuthError_eq_ok_iff, unless_refused_iff]
    exact ⟨parts, read, algorithm, named, (), header, stated, payload, some, rfl⟩

theorem signed_eq_ok_iff : signed token secret = .ok stated ↔ ∃ parts algorithm,
    Reading token parts algorithm stated ∧
      parts.signature = parts.signatureUnder algorithm secret := by
  simp only [signed, bind_eq_ok_iff, orAuthError_eq_ok_iff, unless_refused_iff, Decidable.not_not]
  constructor
  · rintro ⟨parts, read, algorithm, named, _, header, same, payload⟩
    exact ⟨parts, algorithm, ⟨read, named, header, payload⟩, same⟩
  · rintro ⟨parts, algorithm, ⟨read, named, header, payload⟩, same⟩
    exact ⟨parts, read, algorithm, named, (), header, same, payload⟩

theorem Parts.category_of_decoded {segment : Bytes} {fault : TokenFault}
    (failed : Parts.decoded segment = .error fault) : fault.toAuthError.category = .input := by
  unfold Parts.decoded at failed
  split at failed
  · cases failed
  · cases failed
    rfl

theorem Parts.category_of_valued {α : Type} {result : Except Json.Fault α} {fault : TokenFault}
    (failed : Parts.valued result = .error fault) : fault.toAuthError.category = .input := by
  unfold Parts.valued at failed
  split at failed
  · cases failed
  · cases failed
    rfl

theorem Parts.category_of_algorithm {parts : Parts} {error : AuthError}
    (unnamed : parts.algorithm = .error error) : error.category = .input := by
  unfold Parts.algorithm at unnamed
  split at unnamed
  case h_1 => cases unnamed; rfl
  case h_2 text =>
    split at unnamed
    case h_1 => cases unnamed; rfl
    case h_2 name =>
      split at unnamed
      case h_1 => cases unnamed
      case h_2 => cases unnamed; rfl

theorem Parts.category_of_ofText {error : AuthError} (cut : Parts.ofText token = .error error) :
    error.category = .input := by
  unfold Parts.ofText at cut
  split at cut
  case h_1 =>
    split at cut
    case isTrue => cases cut; rfl
    case isFalse => cases cut
  case h_2 => cases cut; rfl

/-- Whatever a peek finds wrong is wrong with the token as it stands. -/
theorem category_of_peek_error {error : AuthError} (unread : peek token = .error error) :
    error.category = .input := by
  simp only [peek, bind_eq_error_iff, orAuthError_eq_error_iff, Parts.checkHeader,
    Parts.stated] at unread
  rcases unread with cut | ⟨parts, -, unnamed | ⟨_, -, header | ⟨_, -, stated | ⟨_, -, last⟩⟩⟩⟩
  · exact Parts.category_of_ofText cut
  · exact Parts.category_of_algorithm unnamed
  · obtain ⟨fault, failed | ⟨_, -, failed⟩, rfl⟩ := header
    · exact Parts.category_of_decoded failed
    · exact Parts.category_of_valued failed
  · obtain ⟨fault, failed | ⟨_, -, failed | ⟨_, -, failed | ⟨_, -, last⟩⟩⟩, rfl⟩ := stated
    · exact Parts.category_of_decoded failed
    · exact Parts.category_of_valued failed
    · exact Parts.category_of_valued failed
    · cases last
  · split at last
    case isTrue => cases last; rfl
    case isFalse => cases last

/-- The third segment of a token is the tag of the others under a secret and the algorithm that an
inspection finds. -/
def Tagged (token : String) (secret : Secret) : Prop :=
  ∃ header payload signature algorithm,
    segments point (Text.utf8 token) = [header, payload, signature] ∧
    inspect token = .ok algorithm ∧
    signature = Base64Url.encode (algorithm.mac secret.bytes (header ++ point :: payload))

theorem tagged_iff_of_inspect {header payload signature : Bytes} {algorithm : Algorithm}
    (split : segments point (Text.utf8 token) = [header, payload, signature])
    (named : inspect token = .ok algorithm) : Tagged token secret ↔
      signature = Base64Url.encode (algorithm.mac secret.bytes (header ++ point :: payload)) := by
  constructor
  · rintro ⟨_, _, _, _, again, found, same⟩
    cases split.symm.trans again
    cases named.symm.trans found
    exact same
  · exact fun same => ⟨header, payload, signature, algorithm, split, named, same⟩

instance decidableTagged (token : String) (secret : Secret) : Decidable (Tagged token secret) :=
  match split : segments point (Text.utf8 token), named : inspect token with
  | [_, _, _], .ok _ => decidable_of_iff' _ (tagged_iff_of_inspect split named)
  | [], _ | [_], _ | [_, _], _ | _ :: _ :: _ :: _ :: _, _ => .isFalse <| by
    rintro ⟨_, _, _, _, again, -⟩
    cases split.symm.trans again
  | _, .error _ => .isFalse <| by
    rintro ⟨_, _, _, _, -, found, -⟩
    cases named.symm.trans found

theorem Reading.tagged_iff {parts : Parts} {algorithm : Algorithm}
    (reading : Reading token parts algorithm stated) :
    Tagged token secret ↔ parts.signature = parts.signatureUnder algorithm secret :=
  tagged_iff_of_inspect (Parts.segments_of_ofText reading.read)
    (inspect_eq_ok_iff.mpr ⟨parts, reading.read, reading.named⟩)

/-- A secret that has not signed a token is told so before anything that the token states is looked at. -/
theorem signed_of_not_tagged (peeked : peek token = .ok claims) (strange : ¬ Tagged token secret) :
    signed token secret = .error .badSignature := by
  obtain ⟨parts, algorithm, stated, reading, -, -⟩ := peek_eq_ok_iff.mp peeked
  have other : parts.signature ≠ parts.signatureUnder algorithm secret :=
    fun same => strange (reading.tagged_iff.mpr same)
  simp only [signed, reading.read, reading.named, reading.header, orAuthError, bind, Except.bind]
  rw [if_pos other]
  rfl

namespace Codec

variable {codec : Codec} {now : Timestamp}

theorem reading_of_encode (encoded : codec.encode claims secret = .ok token) :
    Reading token (codec.parts claims secret) codec.algorithm ⟨claims, true⟩ := by
  obtain ⟨-, rfl⟩ := encode_eq_ok_iff.mp encoded
  exact ⟨ofText_parts .., algorithm_parts .., checkHeader_parts .., stated_parts ..⟩

theorem tagged_of_encode (encoded : codec.encode claims secret = .ok token) :
    Tagged token secret :=
  (reading_of_encode encoded).tagged_iff.mpr rfl

theorem checkSigned_eq_ok_iff {window : Claims → Except AuthError Unit} :
    codec.checkSigned window stated = .ok claims ↔ stated.namesSubject = true ∧
      stated.claims = claims ∧ window claims = .ok () ∧ claims.issuer = codec.issuer ∧
      claims.check = .ok () := by
  simp only [checkSigned, unless_refused_iff, bind_eq_ok_iff, Decidable.not_not]
  constructor
  · rintro ⟨named, _, inside, issuer, _, check, last⟩
    cases last
    exact ⟨named, rfl, inside, issuer, check⟩
  · rintro ⟨named, rfl, inside, issuer, check⟩
    exact ⟨named, (), inside, issuer, (), check, rfl⟩

/-- Signed claims that are checked by a window are those that a peek finds, with the tag of the secret,
the issuer of the codec and times in order. -/
theorem checked_eq_ok_iff {window : Claims → Except AuthError Unit} :
    (signed token secret >>= codec.checkSigned window) = .ok claims ↔
      (peek token = .ok claims ∧ Tagged token secret ∧ claims.issuer = codec.issuer ∧
        claims.issuedAt ≤ claims.notBefore ∧ claims.notBefore ≤ claims.expiresAt) ∧
      window claims = .ok () := by
  simp only [bind_eq_ok_iff, signed_eq_ok_iff, checkSigned_eq_ok_iff, peek_eq_ok_iff,
    Claims.check_eq_ok_iff]
  constructor
  · rintro ⟨stated, ⟨parts, algorithm, reading, same⟩, -, rfl, inside, issuer, some, ordered⟩
    exact ⟨⟨⟨parts, algorithm, stated, reading, rfl, some⟩, reading.tagged_iff.mpr same, issuer,
      ordered⟩, inside⟩
  · rintro ⟨⟨⟨parts, algorithm, stated, reading, rfl, some⟩, tagged, issuer, ordered⟩, inside⟩
    exact ⟨stated, ⟨parts, algorithm, reading, reading.tagged_iff.mp tagged⟩,
      Parts.named_of_stated reading.payload some, rfl, inside, issuer, some, ordered⟩

/-- Whenever a token counts, it is accepted if a peek finds the claims, the secret has signed them and
they name the issuer of the codec and times in order. -/
theorem decodeIgnoringTime_eq_ok_iff : codec.decodeIgnoringTime token secret = .ok claims ↔
    peek token = .ok claims ∧ Tagged token secret ∧ claims.issuer = codec.issuer ∧
      claims.issuedAt ≤ claims.notBefore ∧ claims.notBefore ≤ claims.expiresAt := by
  rw [decodeIgnoringTime, checked_eq_ok_iff, and_iff_left rfl]

theorem decode_eq_ok_iff : codec.decode now token secret = .ok claims ↔
    codec.decodeIgnoringTime token secret = .ok claims ∧ codec.checkWindow now claims = .ok () := by
  rw [decode, checked_eq_ok_iff, decodeIgnoringTime_eq_ok_iff]

/-- What is only wrong with a token at a moment is its window, and then that is the answer. -/
theorem decode_of_ignoringTime (accepted : codec.decodeIgnoringTime token secret = .ok claims) :
    codec.decode now token secret = (codec.checkWindow now claims).map fun _ => claims := by
  simp only [decodeIgnoringTime, bind_eq_ok_iff, checkSigned_eq_ok_iff] at accepted
  obtain ⟨⟨stated, namesSubject⟩, found, named, same, -, issuer, check⟩ := accepted
  dsimp only at named same
  subst named same
  rw [decode, found]
  exact checkSigned_named issuer check

/-- Of a token that states claims, nothing but the signature is looked at under a secret that has not
signed it. -/
theorem decode_of_not_tagged (peeked : peek token = .ok claims) (strange : ¬ Tagged token secret) :
    codec.decode now token secret = .error .badSignature := by
  rw [decode, signed_of_not_tagged peeked strange]
  rfl

theorem decodeIgnoringTime_of_not_tagged (peeked : peek token = .ok claims)
    (strange : ¬ Tagged token secret) :
    codec.decodeIgnoringTime token secret = .error .badSignature := by
  rw [decodeIgnoringTime, signed_of_not_tagged peeked strange]
  rfl

/-- Signed claims are refused for their window, for their issuer, or because their times are out of
order; nothing else can be wrong with what a peek has found. -/
theorem checked_of_tagged (codec : Codec) (window : Claims → Except AuthError Unit)
    (peeked : peek token = .ok claims) (tagged : Tagged token secret) :
    (∃ error, window claims = .error error ∧
      (signed token secret >>= codec.checkSigned window) = .error error) ∨
    window claims = .ok () ∧
      ((signed token secret >>= codec.checkSigned window) = .error .wrongIssuer ∨
        (signed token secret >>= codec.checkSigned window) =
          .error (.malformed .claimsOutOfOrder) ∨
        (signed token secret >>= codec.checkSigned window) = .ok claims) := by
  obtain ⟨parts, algorithm, stated, reading, rfl, some⟩ := peek_eq_ok_iff.mp peeked
  have found : signed token secret = .ok stated :=
    signed_eq_ok_iff.mpr ⟨parts, algorithm, reading, reading.tagged_iff.mp tagged⟩
  have named : stated.namesSubject = true := Parts.named_of_stated reading.payload some
  have checked : (signed token secret >>= codec.checkSigned window) =
      codec.checkSigned window stated := by
    rw [found]
    rfl
  rw [checked, checkSigned, if_neg (not_not_intro named)]
  cases inside : window stated.claims with
  | error error => exact .inl ⟨error, rfl, rfl⟩
  | ok value =>
    refine .inr ⟨rfl, ?_⟩
    by_cases issuer : stated.claims.issuer = codec.issuer
    · refine .inr ?_
      simp only [issuer, ne_eq, not_true_eq_false, ↓reduceIte, Claims.check, some]
      split
      · exact .inl rfl
      · exact .inr rfl
    · refine .inl ?_
      simp only [issuer, ne_eq, not_false_eq_true, ↓reduceIte]
      rfl

/-- What is found wrong with a token has nothing to do with the infrastructure. -/
private theorem category_of_checked_error {window : Claims → Except AuthError Unit}
    {error : AuthError} (peeked : peek token = .ok claims)
    (other : ∀ error, window claims = .error error → error.category ≠ .infrastructure)
    (refused : (signed token secret >>= codec.checkSigned window) = .error error) :
    error.category ≠ .infrastructure := by
  by_cases tagged : Tagged token secret
  · rcases codec.checked_of_tagged window peeked tagged with
      ⟨found, missed, same⟩ | ⟨-, same | same | same⟩
    · obtain rfl := Except.error.inj (same.symm.trans refused)
      exact other found missed
    · obtain rfl := Except.error.inj (same.symm.trans refused)
      exact nofun
    · obtain rfl := Except.error.inj (same.symm.trans refused)
      exact nofun
    · cases same.symm.trans refused
  · rw [signed_of_not_tagged peeked tagged] at refused
    obtain rfl : AuthError.badSignature = error := Except.error.inj refused
    exact nofun

theorem category_of_decode_error {error : AuthError} (peeked : peek token = .ok claims)
    (refused : codec.decode now token secret = .error error) :
    error.category ≠ .infrastructure := by
  refine category_of_checked_error peeked (fun found missed => ?_) refused
  rcases codec.checkWindow_cases now claims with same | same | same
  · obtain rfl := Except.error.inj (same.symm.trans missed)
    exact nofun
  · obtain rfl := Except.error.inj (same.symm.trans missed)
    exact nofun
  · cases same.symm.trans missed

theorem category_of_decodeIgnoringTime_error {error : AuthError} (peeked : peek token = .ok claims)
    (refused : codec.decodeIgnoringTime token secret = .error error) :
    error.category ≠ .infrastructure := by
  refine category_of_checked_error peeked (fun found missed => ?_) refused
  cases missed

/-- If a token is refused whenever it counts, the secret has not signed it, or it names another issuer
or has its times out of order. -/
theorem decodeIgnoringTime_error {error : AuthError} (peeked : peek token = .ok claims)
    (refused : codec.decodeIgnoringTime token secret = .error error) :
    error = .badSignature ∧ ¬ Tagged token secret ∨
      Tagged token secret ∧ (error = .wrongIssuer ∨ error = .malformed .claimsOutOfOrder) := by
  by_cases tagged : Tagged token secret
  · refine .inr ⟨tagged, ?_⟩
    rcases codec.checked_of_tagged (fun _ => .ok ()) peeked tagged with
      ⟨_, same, -⟩ | ⟨-, same | same | same⟩
    · cases same
    · exact .inl (Except.error.inj (refused.symm.trans same))
    · exact .inr (Except.error.inj (refused.symm.trans same))
    · cases refused.symm.trans same
  · have strange : codec.decodeIgnoringTime token secret = .error .badSignature :=
      decodeIgnoringTime_of_not_tagged peeked tagged
    exact .inl ⟨Except.error.inj (refused.symm.trans strange), tagged⟩

/-- Whatever is wrong with a token that the secret has signed, it is not the signature. -/
theorem not_badSignature_of_tagged (codec : Codec) (now : Timestamp)
    (peeked : peek token = .ok claims) (tagged : Tagged token secret) :
    codec.decode now token secret ≠ .error .badSignature ∧
      codec.decodeIgnoringTime token secret ≠ .error .badSignature := by
  constructor
  · intro refused
    rcases codec.checked_of_tagged (codec.checkWindow now) peeked tagged with
      ⟨error, window, checked⟩ | ⟨-, checked | checked | checked⟩
    · obtain rfl : error = .badSignature := Except.error.inj (checked.symm.trans refused)
      rcases codec.checkWindow_cases now claims with same | same | same <;>
        cases same.symm.trans window
    all_goals cases checked.symm.trans refused
  · intro refused
    rcases decodeIgnoringTime_error peeked refused with ⟨-, strange⟩ | ⟨-, other | other⟩
    · exact strange tagged
    · cases other
    · cases other

/-- Of a token that states claims, the signature is found bad if and only if the secret has not signed
it. -/
theorem badSignature_iff (codec : Codec) (now : Timestamp) (peeked : peek token = .ok claims) :
    (codec.decode now token secret = .error .badSignature ↔ ¬ Tagged token secret) ∧
      (codec.decodeIgnoringTime token secret = .error .badSignature ↔ ¬ Tagged token secret) := by
  constructor
  · refine ⟨fun refused tagged => ?_, decode_of_not_tagged peeked⟩
    exact (codec.not_badSignature_of_tagged now peeked tagged).1 refused
  · refine ⟨fun refused tagged => ?_, decodeIgnoringTime_of_not_tagged peeked⟩
    exact (codec.not_badSignature_of_tagged now peeked tagged).2 refused

/-- A token that has expired at some moment states claims whose window has ended by then. -/
theorem checkWindow_of_expired (peeked : peek token = .ok claims)
    (expired : codec.decode now token secret = .error .expired) :
    codec.checkWindow now claims = .error .expired := by
  by_cases tagged : Tagged token secret
  · rcases codec.checked_of_tagged (codec.checkWindow now) peeked tagged with
      ⟨error, window, checked⟩ | ⟨-, checked | checked | checked⟩
    · rw [window, Except.error.inj (checked.symm.trans expired)]
    all_goals cases checked.symm.trans expired
  · cases (decode_of_not_tagged peeked tagged).symm.trans expired

/-- A window that has ended is never open again, while the clock is not set back. -/
theorem checkWindow_of_later {later : Timestamp} (small : codec.leeway ≤ now) (order : now ≤ later)
    (ended : codec.checkWindow now claims = .error .expired) :
    codec.checkWindow later claims = .error .expired := by
  have past : claims.expiresAt < now - codec.leeway := by
    unfold checkWindow at ended
    split at ended
    case isTrue past => exact past
    case isFalse lasts =>
      split at ended
      · cases ended
      · cases ended
  have still : claims.expiresAt < later - codec.leeway := by
    rw [UInt64.lt_iff_toNat_lt, UInt64.toNat_sub_of_le _ _ small] at past
    rw [UInt64.lt_iff_toNat_lt, UInt64.toNat_sub_of_le _ _ (UInt64.le_trans small order)]
    rw [UInt64.le_iff_toNat_le] at order
    omega
  rw [checkWindow, if_pos still]

/-- The three readers of tokens agree. A token whose signature is checked is one in which a peek finds
the same claims; a moment adds its window to that and nothing else, and an end of the window that has
been missed is named. -/
theorem decoders_agree (codec : Codec) (token : String) (secret : Secret) (claims : Claims)
    (small : codec.leeway ≤ now) (large : now.toNat + codec.leeway.toNat < UInt64.size) :
    (codec.decodeIgnoringTime token secret = .ok claims ↔
      peek token = .ok claims ∧ Tagged token secret ∧ claims.issuer = codec.issuer ∧
        claims.issuedAt ≤ claims.notBefore ∧ claims.notBefore ≤ claims.expiresAt) ∧
    (codec.decode now token secret = .ok claims ↔
      codec.decodeIgnoringTime token secret = .ok claims ∧
        claims.notBefore.toNat ≤ now.toNat + codec.leeway.toNat ∧
        now.toNat ≤ claims.expiresAt.toNat + codec.leeway.toNat) ∧
    (codec.decodeIgnoringTime token secret = .ok claims →
      (claims.expiresAt.toNat + codec.leeway.toNat < now.toNat →
        codec.decode now token secret = .error .expired) ∧
      (now.toNat + codec.leeway.toNat < claims.notBefore.toNat →
        codec.decode now token secret = .error .notYetValid) ∧
      ¬ (claims.expiresAt.toNat + codec.leeway.toNat < now.toNat ∧
        now.toNat + codec.leeway.toNat < claims.notBefore.toNat)) ∧
    ∀ hint, peek token = .ok hint →
      codec.decodeIgnoringTime token secret = .ok claims ∨
        codec.decode now token secret = .ok claims → hint.subject = claims.subject := by
  have window : codec.checkWindow now claims = _ := codec.checkWindow_eq small large
  refine ⟨decodeIgnoringTime_eq_ok_iff, ?_, ?_, ?_⟩
  · rw [decode_eq_ok_iff, window]
    refine and_congr_right fun _ => ?_
    split
    case isTrue late => simp only [reduceCtorEq, false_iff, not_and, Nat.not_le]; omega
    case isFalse lasts =>
      split
      case isTrue early => simp only [reduceCtorEq, false_iff, not_and, Nat.not_le]; omega
      case isFalse started => simp only [true_iff]; omega
  · intro accepted
    obtain ⟨-, -, -, -, ordered⟩ := decodeIgnoringTime_eq_ok_iff.mp accepted
    rw [UInt64.le_iff_toNat_le] at ordered
    rw [decode_of_ignoringTime accepted, window]
    refine ⟨fun late => ?_, fun early => ?_, fun both => ?_⟩
    · rw [if_pos late]
      rfl
    · rw [if_neg (by omega), if_pos early]
      rfl
    · omega
  · intro hint peeked accepted
    have accepted : codec.decodeIgnoringTime token secret = .ok claims := by
      rcases accepted with always | inside
      · exact always
      · exact (decode_eq_ok_iff.mp inside).1
    obtain ⟨again, -⟩ := decodeIgnoringTime_eq_ok_iff.mp accepted
    exact congrArg Claims.subject (Except.ok.inj (peeked.symm.trans again))

/-- A codec whose issuer needs escapes. -/
def sample : Codec := ⟨"\"tökens\"\\", 5, .hs512⟩

/-- Claims with every permission, whose subject needs escapes of all kinds. -/
def sampleClaims : Claims :=
  ⟨"a\n\"b\"\\\u0001é😀", ⟨BitVec.allOnes 53⟩, 1000, 1000, 1900, sample.issuer⟩

/-- The token that states them, signed with no bytes at all. -/
def sampleToken : String := ofParts (sample.parts sampleClaims ⟨[]⟩)

theorem encode_sampleClaims : sample.encode sampleClaims ⟨[]⟩ = .ok sampleToken :=
  encode_eq_ok_iff.mpr ⟨rfl, rfl⟩

/-- The sample token counts up to five seconds after its end and not a second longer. -/
theorem decode_sampleToken :
    sample.decode 1905 sampleToken ⟨[]⟩ = .ok sampleClaims ∧
      sample.decode 1906 sampleToken ⟨[]⟩ = .error .expired := by
  have peeked : peek sampleToken = .ok sampleClaims :=
    peek_encode encode_sampleClaims (by simp [sampleClaims])
  have tagged : Tagged sampleToken ⟨[]⟩ := tagged_of_encode encode_sampleClaims
  obtain ⟨whenever, lasting, -, -⟩ :=
    decoders_agree sample sampleToken ⟨[]⟩ sampleClaims (by decide : sample.leeway ≤ 1905) (by decide)
  obtain ⟨-, -, missed, -⟩ :=
    decoders_agree sample sampleToken ⟨[]⟩ sampleClaims (by decide : sample.leeway ≤ 1906) (by decide)
  have accepted := whenever.mpr ⟨peeked, tagged, rfl, by decide, by decide⟩
  exact ⟨lasting.mpr ⟨accepted, by decide, by decide⟩, (missed accepted).1 (by decide)⟩

end Codec
end Token
end Signet
