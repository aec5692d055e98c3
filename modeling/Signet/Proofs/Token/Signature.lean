import Signet.Proofs.Base64Url
import Signet.Proofs.Token.Payload

/-! Tokens as they are written and read back. What a token states is read back from it under any
secret, and its signature counts under the secret that signed it. -/

namespace Signet.Token

theorem segments_of_not_mem {separator : UInt8} {bytes : Bytes} (absent : separator ∉ bytes) :
    segments separator bytes = [bytes] := by
  induction bytes with
  | nil => rfl
  | cons byte rest ih =>
    obtain ⟨other, later⟩ := not_or.mp (mt List.mem_cons.mpr absent)
    rw [segments, if_neg (Ne.symm other), ih later]

theorem segments_append {separator : UInt8} {first : Bytes} (absent : separator ∉ first)
    (rest : Bytes) :
    segments separator (first ++ separator :: rest) = first :: segments separator rest := by
  induction first with
  | nil => simp [segments]
  | cons byte first ih =>
    obtain ⟨other, later⟩ := not_or.mp (mt List.mem_cons.mpr absent)
    rw [List.cons_append, segments, if_neg (Ne.symm other), ih later]

/-- The segments that a token is written with are read back from it. -/
theorem Parts.ofText_ofParts {header payload signature : Bytes} (head : header ≠ [])
    (body : payload ≠ []) (tag : signature ≠ []) :
    Parts.ofText (ofParts ⟨Base64Url.encode header, Base64Url.encode payload,
        Base64Url.encode signature⟩) =
      .ok ⟨Base64Url.encode header, Base64Url.encode payload, Base64Url.encode signature⟩ := by
  have plain : ∀ byte ∈ (Base64Url.encode header ++ point :: Base64Url.encode payload) ++
      point :: Base64Url.encode signature, byte < 128 := by
    intro byte member
    simp only [List.mem_append, List.mem_cons] at member
    rcases member with (first | rfl | second) | rfl | third
    · exact Base64Url.lt_of_mem_encode first
    · decide
    · exact Base64Url.lt_of_mem_encode second
    · decide
    · exact Base64Url.lt_of_mem_encode third
  have unknown : Base64Url.value? point = none := rfl
  have absent := Base64Url.not_mem_encode unknown
  have split : segments point ((Base64Url.encode header ++ point :: Base64Url.encode payload) ++
      point :: Base64Url.encode signature) =
      [Base64Url.encode header, Base64Url.encode payload, Base64Url.encode signature] := by
    rw [List.append_assoc, List.cons_append, segments_append (absent header),
      segments_append (absent payload), segments_of_not_mem (absent signature)]
  have full : ¬ (Base64Url.encode header = [] ∨ Base64Url.encode payload = [] ∨
      Base64Url.encode signature = []) := by
    rintro (none | none | none)
    · exact Base64Url.encode_ne_nil head none
    · exact Base64Url.encode_ne_nil body none
    · exact Base64Url.encode_ne_nil tag none
  rw [Parts.ofText, ofParts, message, Text.utf8_ofAscii plain, split]
  simp only [full, ↓reduceIte]

/-- The signature of a token is the one that counts under a secret. -/
def SignedUnder (token : String) (secret : Secret) : Prop :=
  ∃ parts algorithm, Parts.ofText token = .ok parts ∧ parts.algorithm = .ok algorithm ∧
    parts.signature = parts.signatureUnder algorithm secret

theorem Parts.segments_of_ofText {token : String} {parts : Parts}
    (read : Parts.ofText token = .ok parts) :
    segments point (Text.utf8 token) = [parts.header, parts.payload, parts.signature] := by
  unfold Parts.ofText at read
  split at read
  case h_1 header payload signature split =>
    split at read
    case isTrue none => cases read
    case isFalse full =>
      cases read
      exact split
  case h_2 => cases read

theorem Parts.full_of_ofText {token : String} {parts : Parts}
    (read : Parts.ofText token = .ok parts) :
    parts.header ≠ [] ∧ parts.payload ≠ [] ∧ parts.signature ≠ [] := by
  unfold Parts.ofText at read
  split at read
  case h_1 header payload signature split =>
    split at read
    case isTrue none => cases read
    case isFalse full =>
      cases read
      simpa only [not_or] using full
  case h_2 => cases read

/-- The algorithm that counts is the one that the header names. -/
theorem Parts.named_of_algorithm {parts : Parts} {algorithm : Algorithm}
    (named : parts.algorithm = .ok algorithm) :
    ∃ text, Base64Url.decode parts.header = .ok text ∧
      Json.decode readAlgorithmName text = .ok algorithm.name := by
  unfold Parts.algorithm at named
  split at named
  case h_1 fault failed => cases named
  case h_2 text decoded =>
    split at named
    case h_1 fault failed => cases named
    case h_2 name read =>
      split at named
      case h_1 known found =>
        cases named
        exact ⟨text, decoded, by rw [read, Algorithm.name_of_ofName? found]⟩
      case h_2 unknown => cases named

theorem orAuthError_eq_ok_iff {α : Type} {result : Except TokenFault α} {value : α} :
    orAuthError result = .ok value ↔ result = .ok value := by
  cases result <;> simp [orAuthError]

theorem orAuthError_eq_error_iff {α : Type} {result : Except TokenFault α} {error : AuthError} :
    orAuthError result = .error error ↔ ∃ fault, result = .error fault ∧ fault.toAuthError = error := by
  cases result <;> simp [orAuthError]

theorem bind_eq_ok_iff {ε α β : Type} {first : Except ε α} {next : α → Except ε β} {value : β} :
    (first >>= next) = .ok value ↔ ∃ found, first = .ok found ∧ next found = .ok value := by
  cases first <;> simp [bind, Except.bind]

theorem bind_eq_error_iff {ε α β : Type} {first : Except ε α} {next : α → Except ε β} {error : ε} :
    (first >>= next) = .error error ↔
      first = .error error ∨ ∃ found, first = .ok found ∧ next found = .error error := by
  cases first <;> simp [bind, Except.bind]

/-- A check that refuses under a condition lets through what fails it. -/
theorem unless_refused_iff {ε α β : Type} {refused : Prop} [Decidable refused] {error : ε}
    {next : β → Except ε α} {others : Except ε α} {value : α} :
    (if refused then throw error >>= next else others) = .ok value ↔
      ¬ refused ∧ others = .ok value := by
  by_cases holds : refused <;> simp [holds, throw, throwThe, MonadExceptOf.throw, bind, Except.bind]

/-- What a peek found is stated in three full segments that name an algorithm. -/
theorem peek_eq_ok {token : String} {claims : Claims} (peeked : peek token = .ok claims) :
    ∃ parts algorithm stated, Parts.ofText token = .ok parts ∧ parts.algorithm = .ok algorithm ∧
      parts.checkHeader = .ok () ∧ parts.stated = .ok stated ∧ stated.claims = claims ∧
      claims.subject ≠ "" := by
  simp only [peek, bind_eq_ok_iff, orAuthError_eq_ok_iff, unless_refused_iff] at peeked
  obtain ⟨parts, read, algorithm, named, _, header, stated, payload, subject, last⟩ := peeked
  cases last
  exact ⟨parts, algorithm, stated, read, named, header, payload, rfl, subject⟩

/-- Claims count as signed only if the signature is the one under the secret. -/
theorem signed_eq_ok {token : String} {secret : Secret} {stated : Claims.Stated}
    (signed : signed token secret = .ok stated) :
    ∃ parts algorithm, Parts.ofText token = .ok parts ∧ parts.algorithm = .ok algorithm ∧
      parts.signature = parts.signatureUnder algorithm secret ∧ parts.stated = .ok stated := by
  simp only [Token.signed, bind_eq_ok_iff, orAuthError_eq_ok_iff, unless_refused_iff,
    Decidable.not_not] at signed
  obtain ⟨parts, read, algorithm, named, _, header, same, payload⟩ := signed
  exact ⟨parts, algorithm, read, named, same, payload⟩

namespace Codec

variable {codec : Codec} {now : Timestamp} {token : String} {secret : Secret} {claims : Claims}

theorem checkSigned_eq_ok {window : Claims → Except AuthError Unit} {stated : Claims.Stated}
    (checked : codec.checkSigned window stated = .ok claims) :
    stated.claims = claims ∧ window claims = .ok () ∧ claims.issuer = codec.issuer ∧
      claims.check = .ok () := by
  simp only [checkSigned, unless_refused_iff, bind_eq_ok_iff, Decidable.not_not] at checked
  obtain ⟨-, _, inside, issuer, _, check, last⟩ := checked
  cases last
  exact ⟨rfl, inside, issuer, check⟩

/-- What is checked of signed claims that name their subject: first the window, then the issuer. -/
theorem checkSigned_named {window : Claims → Except AuthError Unit}
    (issuer : claims.issuer = codec.issuer) (check : claims.check = .ok ()) :
    codec.checkSigned window ⟨claims, true⟩ = (window claims).map fun _ => claims := by
  simp only [checkSigned, issuer, check, ne_eq, not_true_eq_false, ↓reduceIte]
  cases window claims <;> rfl

theorem checkWindow_cases (codec : Codec) (now : Timestamp) (claims : Claims) :
    codec.checkWindow now claims = .error .expired ∨
      codec.checkWindow now claims = .error .notYetValid ∨
      codec.checkWindow now claims = .ok () := by
  unfold checkWindow
  split
  · exact .inl rfl
  · split
    · exact .inr (.inl rfl)
    · exact .inr (.inr rfl)

theorem checkWindow_eq_ok (inside : codec.checkWindow now claims = .ok ())
    (small : codec.leeway ≤ now) :
    claims.notBefore.toNat ≤ now.toNat + codec.leeway.toNat ∧
      now.toNat ≤ claims.expiresAt.toNat + codec.leeway.toNat := by
  unfold checkWindow at inside
  split at inside
  case isTrue expired => cases inside
  case isFalse counts =>
  split at inside
  case isTrue early => cases inside
  case isFalse started =>
    rw [UInt64.lt_iff_toNat_lt, UInt64.toNat_sub_of_le _ _ small] at counts
    rw [UInt64.lt_iff_toNat_lt, UInt64.toNat_add] at started
    rw [UInt64.le_iff_toNat_le] at small
    have wrapped := Nat.mod_le (now.toNat + codec.leeway.toNat) (2 ^ 64)
    exact ⟨by omega, by omega⟩

/-- The answer of the window in whole numbers, where neither end of it wraps around. -/
theorem checkWindow_eq (small : codec.leeway ≤ now)
    (large : now.toNat + codec.leeway.toNat < UInt64.size) :
    codec.checkWindow now claims =
      if claims.expiresAt.toNat + codec.leeway.toNat < now.toNat then .error .expired
      else if now.toNat + codec.leeway.toNat < claims.notBefore.toNat then .error .notYetValid
      else .ok () := by
  have expired : claims.expiresAt < now - codec.leeway ↔
      claims.expiresAt.toNat + codec.leeway.toNat < now.toNat := by
    rw [UInt64.lt_iff_toNat_lt, UInt64.toNat_sub_of_le _ _ small]
    rw [UInt64.le_iff_toNat_le] at small
    omega
  have early : now + codec.leeway < claims.notBefore ↔
      now.toNat + codec.leeway.toNat < claims.notBefore.toNat := by
    have whole : (now + codec.leeway).toNat = now.toNat + codec.leeway.toNat :=
      (UInt64.toNat_add _ _).trans (Nat.mod_eq_of_lt large)
    rw [UInt64.lt_iff_toNat_lt, whole]
  simp only [checkWindow, expired, early]

/-- Claims are only accepted from a token that the secret has signed. -/
theorem decode_eq_ok (decoded : codec.decode now token secret = .ok claims) :
    ∃ parts algorithm stated, Parts.ofText token = .ok parts ∧ parts.algorithm = .ok algorithm ∧
      parts.signature = parts.signatureUnder algorithm secret ∧ parts.stated = .ok stated ∧
      stated.claims = claims ∧ codec.checkWindow now claims = .ok () ∧
      claims.issuer = codec.issuer ∧ claims.check = .ok () := by
  simp only [decode, bind_eq_ok_iff] at decoded
  obtain ⟨stated, signed, checked⟩ := decoded
  obtain ⟨parts, algorithm, read, named, signature, payload⟩ := signed_eq_ok signed
  obtain ⟨same, window, issuer, check⟩ := checkSigned_eq_ok checked
  exact ⟨parts, algorithm, stated, read, named, signature, payload, same, window, issuer, check⟩

/-- The segments of the token that states these claims. -/
def parts (codec : Codec) (claims : Claims) (secret : Secret) : Parts :=
  let unsigned : Parts :=
    ⟨Base64Url.encode (headerJson codec.algorithm), Base64Url.encode claims.json, []⟩
  { unsigned with signature := unsigned.signatureUnder codec.algorithm secret }

theorem encode_eq_ok_iff : codec.encode claims secret = .ok token ↔
    claims.check = .ok () ∧ token = ofParts (codec.parts claims secret) := by
  simp only [encode, bind_eq_ok_iff]
  constructor
  · rintro ⟨_, check, last⟩
    cases last
    exact ⟨check, rfl⟩
  · rintro ⟨check, rfl⟩
    exact ⟨(), check, rfl⟩

theorem ofText_parts (codec : Codec) (claims : Claims) (secret : Secret) :
    Parts.ofText (ofParts (codec.parts claims secret)) = .ok (codec.parts claims secret) :=
  Parts.ofText_ofParts (by simp [headerJson, Json.Print.object])
    (by simp [Claims.json, Json.Print.object]) (Algorithm.mac_ne_nil _ _ _)

theorem algorithm_parts (codec : Codec) (claims : Claims) (secret : Secret) :
    (codec.parts claims secret).algorithm = .ok codec.algorithm := by
  simp only [Parts.algorithm, parts, Base64Url.decode_encode, decode_readAlgorithmName,
    Algorithm.ofName?_name]

theorem checkHeader_parts (codec : Codec) (claims : Claims) (secret : Secret) :
    (codec.parts claims secret).checkHeader = .ok () := by
  simp only [Parts.checkHeader, Parts.decoded, parts, Base64Url.decode_encode, bind, Except.bind,
    decode_readHeader, Parts.valued]

theorem stated_parts (codec : Codec) (claims : Claims) (secret : Secret) :
    (codec.parts claims secret).stated = .ok ⟨claims, true⟩ := by
  simp only [Parts.stated, Parts.decoded, parts, Base64Url.decode_encode, bind, Except.bind,
    Claims.stated_json, decode_readRegistered, Parts.valued, pure, Except.pure]

/-- A peek at a token finds the claims that it was written with. -/
theorem peek_encode (encoded : codec.encode claims secret = .ok token)
    (subject : claims.subject ≠ "") : peek token = .ok claims := by
  obtain ⟨-, rfl⟩ := encode_eq_ok_iff.mp encoded
  simp only [peek, bind_eq_ok_iff, orAuthError_eq_ok_iff, unless_refused_iff]
  exact ⟨_, ofText_parts .., _, algorithm_parts .., (), checkHeader_parts .., _, stated_parts ..,
    subject, rfl⟩

/-- Whether a written token counts is up to the window alone. -/
theorem decode_encode (encoded : codec.encode claims secret = .ok token)
    (issuer : claims.issuer = codec.issuer) :
    codec.decode now token secret = (codec.checkWindow now claims).map fun _ => claims := by
  obtain ⟨check, rfl⟩ := encode_eq_ok_iff.mp encoded
  have found : signed (ofParts (codec.parts claims secret)) secret = .ok ⟨claims, true⟩ := by
    simp only [signed, bind_eq_ok_iff, orAuthError_eq_ok_iff, unless_refused_iff,
      Decidable.not_not]
    exact ⟨_, ofText_parts .., _, algorithm_parts .., (), checkHeader_parts .., rfl,
      stated_parts ..⟩
  rw [decode, found]
  exact checkSigned_named issuer check

end Codec
end Signet.Token
