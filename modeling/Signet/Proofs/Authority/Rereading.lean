import Signet.Proofs.Authority.Trust
import Signet.Proofs.Token.Acceptance

/-! Reading a secret once more. A verification that finds the signature of a young token bad reads the
secret again; it then comes to what a verification with one read comes to, of the second secret if that
is another and of the first if it is not. -/

namespace Signet

/-- What reads of secrets are answered one after the other, and what the clock of the wall says once so
many calls have been made. -/
structure Script where
  reads : Nat → Except AuthError (Option Secret)
  clock : Nat → Timestamp

namespace Script

variable {α β : Type} (script : Script)

/-- What is left of a script after so many calls. -/
def drop (count : Nat) : Script where
  reads := fun made => script.reads (count + made)
  clock := fun made => script.clock (count + made)

/-- Answers from a script, keeping account of the calls. A script has no secrets to draw, and nobody to
verify credentials. -/
def surroundings : Operation.Surroundings (List StoreCall)
  | .fresh _, calls => (.error "", calls)
  | .time, calls => (script.clock calls.length, calls)
  | .store (.get key) _, calls => (script.reads calls.length, calls ++ [.get key])
  | .store (.claim key fresh ttl) _, calls => (.ok fresh, calls ++ [.claim key fresh ttl])
  | .store (.delete key) _, calls => (.ok (), calls ++ [.delete key])
  | .verification _, calls => (.error (.verifierUnavailable ""), calls)
  | .report _, calls => ((), calls)

/-- What an operation comes to after some calls, and the calls that have been made then. -/
def attempt (attempt : Attempt α) (calls : List StoreCall) : Except AuthError α × List StoreCall :=
  attempt.run.run script.surroundings calls

/-- What an operation comes to from the start of the script. -/
def answer (attempt : Attempt α) : Except AuthError α := (script.attempt attempt []).1

/-- The calls that an operation makes from the start of the script. -/
def calls (attempt : Attempt α) : List StoreCall := (script.attempt attempt []).2

theorem attempt_bind (first : Attempt α) (next : α → Attempt β) (calls : List StoreCall) :
    script.attempt (first >>= next) calls =
      match script.attempt first calls with
      | (.ok value, after) => script.attempt (next value) after
      | (.error error, after) => (.error error, after) := by
  simp only [attempt, Attempt.run_run_bind]
  rcases first.run.run script.surroundings calls with ⟨error | value, after⟩ <;> rfl

theorem attempt_lift (operation : Operation α) (calls : List StoreCall) :
    script.attempt (liftM operation) calls =
      (.ok (operation.run script.surroundings calls).1,
        (operation.run script.surroundings calls).2) :=
  Attempt.run_run_lift ..

theorem attempt_ofResult (result : Except AuthError α) (calls : List StoreCall) :
    script.attempt (Attempt.ofResult result) calls = (result, calls) := rfl

end Script

namespace Authority

/-- The secret that counts, of what has been read: an empty one counts as none. -/
def currentOf (read : Except AuthError (Option Secret)) : Except AuthError (Option Secret) :=
  read.map (Option.filter (!·.isEmpty))

theorem currentOf_full {secret : Secret} (full : secret.isEmpty = false) :
    currentOf (.ok (some secret)) = .ok (some secret) := by
  simp [currentOf, Except.map, Option.filter, full]

theorem currentOf_eq_some {read : Except AuthError (Option Secret)} {secret : Secret}
    (current : currentOf read = .ok (some secret)) :
    read = .ok (some secret) ∧ secret.isEmpty = false := by
  cases read with
  | error error => cases current
  | ok found =>
    obtain ⟨rfl, full⟩ := Option.filter_eq_some_iff.mp (Except.ok.inj current)
    exact ⟨rfl, by simpa using full⟩

theorem currentOf_eq_error {read : Except AuthError (Option Secret)} {error : AuthError} :
    currentOf read = .error error ↔ read = .error error := by
  cases read with
  | error other => exact Iff.rfl
  | ok found => exact ⟨nofun, nofun⟩

/-- A verification that reads the secret once, and takes what it finds. -/
def verifyOnce (authority : Authority) (token : String) (required : Permission) : Attempt Bool := do
  let hint ← Attempt.ofResult (Token.peek token)
  match ← authority.currentSecret hint.subject with
  | none => reject hint.subject .unknownSubject
  | some secret =>
    let claims ← rejecting hint.subject (authority.decode token secret)
    let allowed := claims.permissions.hasAll required
    Operation.report .debug "verified token" [("subject", hint.subject),
      ("required", required.text), ("allowed", toString allowed)]
    return allowed

/-- What a token comes to at a moment, by what is found for its subject. -/
def judgement (authority : Authority) (token : String) (required : Permission)
    (moment : Timestamp) : Except AuthError (Option Secret) → Except AuthError Bool
  | .error error => .error error
  | .ok none => .error .unknownSubject
  | .ok (some secret) =>
    (authority.codec.decode moment token secret).map (·.permissions.hasAll required)

end Authority

namespace Script

open Authority

variable {α : Type} (script : Script) {authority : Authority} {token subject : String}
  {required : Permission} {hint : Claims} {calls : List StoreCall}

theorem attempt_currentSecret : script.attempt (authority.currentSecret subject) calls =
    (currentOf (script.reads calls.length), calls ++ [.get (Secret.key subject)]) := by
  have asked : script.attempt (authority.call (.get (Secret.key subject))) calls =
      (script.reads calls.length, calls ++ [.get (Secret.key subject)]) := rfl
  rw [currentSecret, attempt_bind, asked]
  cases script.reads calls.length with
  | error error => rfl
  | ok found => rfl

theorem attempt_reject (error : AuthError) :
    script.attempt (reject subject error : Attempt α) calls = (.error error, calls) := by
  unfold reject
  dsimp only
  split <;> rfl

/-- Whatever is reported of a rejection, it comes to what has been rejected. -/
theorem attempt_rejecting (attempt : Attempt α) :
    script.attempt (rejecting subject attempt) calls = script.attempt attempt calls := by
  rw [rejecting, Script.attempt, Attempt.run_run_tryCatch]
  show _ = attempt.run.run script.surroundings calls
  rcases attempt.run.run script.surroundings calls with ⟨error | value, after⟩
  · exact script.attempt_reject error
  · rfl

/-- A verification ends with whether the claims that it has accepted permit what is required. -/
private theorem attempt_allowed (attempt : Attempt Claims)
    (fields : Claims → List (String × String)) :
    script.attempt (rejecting subject attempt >>= fun claims => do
        Operation.report .debug "verified token" (fields claims)
        return claims.permissions.hasAll required) calls =
      ((script.attempt attempt calls).1.map (·.permissions.hasAll required),
        (script.attempt attempt calls).2) := by
  rw [attempt_bind, attempt_rejecting]
  rcases script.attempt attempt calls with ⟨error | claims, after⟩
  · rfl
  · rfl

theorem attempt_verifyOnce (peeked : Token.peek token = .ok hint) :
    script.attempt (authority.verifyOnce token required) [] =
      (authority.judgement token required (script.clock 1) (currentOf (script.reads 0)),
        [.get (Secret.key hint.subject)]) := by
  rw [verifyOnce, attempt_bind, attempt_ofResult, peeked]
  dsimp only
  rw [attempt_bind, attempt_currentSecret, List.length_nil, List.nil_append]
  rcases currentOf (script.reads 0) with error | _ | secret
  · rfl
  · exact script.attempt_reject .unknownSubject
  · exact script.attempt_allowed (authority.decode token secret) _

/-- A verification is what it accepts of the first secret that it reads. -/
theorem attempt_verify (peeked : Token.peek token = .ok hint) :
    script.attempt (authority.verify token required) [] =
      match currentOf (script.reads 0) with
      | .error error => (.error error, [.get (Secret.key hint.subject)])
      | .ok none => (.error .unknownSubject, [.get (Secret.key hint.subject)])
      | .ok (some secret) =>
        ((script.attempt (authority.accept token hint secret)
            [.get (Secret.key hint.subject)]).1.map (·.permissions.hasAll required),
          (script.attempt (authority.accept token hint secret)
            [.get (Secret.key hint.subject)]).2) := by
  rw [verify, attempt_bind, attempt_ofResult, peeked]
  dsimp only
  rw [attempt_bind, attempt_currentSecret, List.length_nil, List.nil_append]
  rcases currentOf (script.reads 0) with error | _ | secret
  · rfl
  · exact script.attempt_reject .unknownSubject
  · exact script.attempt_allowed (authority.accept token hint secret) _

theorem attempt_reverify (tried : Secret) :
    script.attempt (authority.reverify token subject tried) calls =
      match currentOf (script.reads calls.length) with
      | .error error => (.error error, calls ++ [.get (Secret.key subject)])
      | .ok none => (.error .badSignature, calls ++ [.get (Secret.key subject)])
      | .ok (some fresh) =>
        (if fresh ≠ tried then
            authority.codec.decode (script.clock (calls.length + 1)) token fresh
          else .error .badSignature, calls ++ [.get (Secret.key subject)]) := by
  rw [reverify, attempt_bind, attempt_currentSecret]
  rcases currentOf (script.reads calls.length) with error | _ | fresh
  · rfl
  · rfl
  · dsimp only
    split
    case isTrue changed =>
      show (authority.codec.decode (script.clock _) token fresh, _) = _
      rw [List.length_append]
      rfl
    case isFalse same => rfl

/-- Unless a signature is bad that another secret may have made, the first secret decides. -/
theorem attempt_accept_of_settled {secret : Secret}
    (settled : ¬ (authority.codec.decode (script.clock calls.length) token secret =
      .error .badSignature ∧ authority.recentlyIssued (script.clock calls.length) hint = true)) :
    script.attempt (authority.accept token hint secret) calls =
      (authority.codec.decode (script.clock calls.length) token secret, calls) := by
  have asked : Operation.time.run script.surroundings calls =
      (script.clock calls.length, calls) := rfl
  rw [accept, attempt_bind, attempt_lift, asked]
  dsimp only
  split
  case h_1 claims decoded => rw [decoded]; rfl
  case h_2 strange =>
    rw [if_neg fun young => settled ⟨strange, young⟩, strange]
    rfl
  case h_3 error other refused => rw [refused]; rfl

theorem attempt_accept_of_suspected {secret : Secret}
    (strange : authority.codec.decode (script.clock calls.length) token secret =
      .error .badSignature)
    (young : authority.recentlyIssued (script.clock calls.length) hint = true) :
    script.attempt (authority.accept token hint secret) calls =
      script.attempt (authority.reverify token hint.subject secret) calls := by
  have asked : Operation.time.run script.surroundings calls =
      (script.clock calls.length, calls) := rfl
  rw [accept, attempt_bind, attempt_lift, asked]
  dsimp only
  rw [strange]
  dsimp only
  rw [if_pos young]

end Script

namespace Authority

variable {authority : Authority} {script : Script} {token : String} {required : Permission}
  {hint : Claims} {tried : Secret}

/-- Claims that were made no longer ago than a secret may be looked for again, and not later than the
leeway allows. -/
def Young (authority : Authority) (moment : Timestamp) (hint : Claims) : Prop :=
  hint.issuedAt.toNat ≤ moment.toNat + authority.settings.leeway.toNat ∧
    moment.toNat - hint.issuedAt.toNat ≤ authority.settings.mismatchRetry.toNat

theorem recentlyIssued_iff {moment : Timestamp} :
    authority.recentlyIssued moment hint = true ↔ authority.Young moment hint := by
  have small := hint.issuedAt.toNat_lt_size
  rw [recentlyIssued, Bool.and_eq_true, decide_eq_true_iff, decide_eq_true_iff,
    UInt64.le_iff_toNat_le, UInt64.le_iff_toNat_le, toNat_saturatingAdd, toNat_saturatingSub, Young]
  omega

/-- The secret that is read first has not signed the token, which is young enough that another may
have. -/
structure Suspects (authority : Authority) (script : Script) (token : String) (hint : Claims)
    (tried : Secret) : Prop where
  read : script.reads 0 = .ok (some tried)
  full : tried.isEmpty = false
  strange : authority.codec.decode (script.clock 1) token tried = .error .badSignature
  young : authority.Young (script.clock 1) hint

theorem Suspects.current (suspects : authority.Suspects script token hint tried) :
    currentOf (script.reads 0) = .ok (some tried) := by
  rw [suspects.read]
  exact currentOf_full suspects.full

/-- Where nothing is suspected, a verification reads once. -/
private theorem attempt_of_unsuspected (peeked : Token.peek token = .ok hint)
    (none : ¬ ∃ tried, authority.Suspects script token hint tried) :
    script.attempt (authority.verify token required) [] =
      script.attempt (authority.verifyOnce token required) [] := by
  rw [script.attempt_verify peeked, script.attempt_verifyOnce peeked]
  rcases current : currentOf (script.reads 0) with error | _ | secret
  · rfl
  · rfl
  · obtain ⟨read, full⟩ := currentOf_eq_some current
    have settled : script.attempt (authority.accept token hint secret)
        [.get (Secret.key hint.subject)] =
        (authority.codec.decode (script.clock 1) token secret,
          [.get (Secret.key hint.subject)]) := by
      refine script.attempt_accept_of_settled ?_
      rintro ⟨strange, young⟩
      exact none ⟨secret, read, full, strange, recentlyIssued_iff.mp young⟩
    dsimp only
    rw [settled]
    rfl

/-- Where the first secret is suspected, the second read decides. -/
private theorem attempt_of_suspected (peeked : Token.peek token = .ok hint)
    (suspects : authority.Suspects script token hint tried) :
    script.attempt (authority.verify token required) [] =
      (match currentOf (script.reads 1) with
        | .error error => .error error
        | .ok none => .error .badSignature
        | .ok (some fresh) =>
          if fresh ≠ tried then
            authority.judgement token required (script.clock 2) (.ok (some fresh))
          else .error .badSignature,
        [.get (Secret.key hint.subject), .get (Secret.key hint.subject)]) := by
  have suspected : script.attempt (authority.accept token hint tried)
      [.get (Secret.key hint.subject)] = _ :=
    script.attempt_accept_of_suspected suspects.strange (recentlyIssued_iff.mpr suspects.young)
  rw [script.attempt_verify peeked, suspects.current]
  dsimp only
  rw [suspected, script.attempt_reverify]
  dsimp only [List.length_singleton]
  rcases currentOf (script.reads 1) with error | _ | fresh
  · rfl
  · rfl
  · dsimp only
    split
    case isTrue changed => rfl
    case isFalse same => rfl

/-- What a verification comes to that may read the secret twice, beside verifications that read it
once. -/
structure Rereads (authority : Authority) (script : Script) (token : String) (required : Permission)
    (hint : Claims) : Prop where
  once : (¬ ∃ tried, authority.Suspects script token hint tried) →
    script.calls (authority.verify token required) = [.get (Secret.key hint.subject)]
  twice : (∃ tried, authority.Suspects script token hint tried) →
    script.calls (authority.verify token required) =
      [.get (Secret.key hint.subject), .get (Secret.key hint.subject)]
  /-- Another secret than the one suspected is taken as if it had been read at first. -/
  renewed : ∀ tried fresh, authority.Suspects script token hint tried →
    script.reads 1 = .ok (some fresh) → fresh.isEmpty = false → fresh ≠ tried →
    script.answer (authority.verify token required) =
      (script.drop 1).answer (authority.verifyOnce token required)
  unanswered : ∀ tried error, authority.Suspects script token hint tried →
    script.reads 1 = .error error →
    script.answer (authority.verify token required) = .error error
  /-- Where nothing is suspected, or no other secret is found, the first read decides. -/
  settled : (∀ tried, authority.Suspects script token hint tried → ∃ found,
      script.reads 1 = .ok found ∧ ∀ fresh, found = some fresh →
        fresh.isEmpty = true ∨ fresh = tried) →
    script.answer (authority.verify token required) =
      script.answer (authority.verifyOnce token required)
  /-- A secret that has been replaced since keeps no young token from being accepted. -/
  genuine : ∀ stale fresh, script.reads 0 = .ok (some stale) → stale.isEmpty = false →
    script.reads 1 = .ok (some fresh) → fresh.isEmpty = false →
    authority.Young (script.clock 1) hint →
    authority.codec.decode (script.clock 1) token fresh = .ok hint →
    authority.codec.decode (script.clock 2) token fresh = .ok hint →
    script.answer (authority.verify token required) = .ok (hint.permissions.hasAll required)
  accepted : ∀ allowed, script.answer (authority.verifyOnce token required) = .ok allowed →
    script.answer (authority.verify token required) = .ok allowed ∧
      script.calls (authority.verify token required) = [.get (Secret.key hint.subject)]
  refused : (∀ allowed, script.answer (authority.verifyOnce token required) ≠ .ok allowed) →
    (∀ allowed, (script.drop 1).answer (authority.verifyOnce token required) ≠ .ok allowed) →
    ∀ allowed, script.answer (authority.verify token required) ≠ .ok allowed

theorem answer_verifyOnce (peeked : Token.peek token = .ok hint) :
    script.answer (authority.verifyOnce token required) =
      authority.judgement token required (script.clock 1) (currentOf (script.reads 0)) :=
  congrArg Prod.fst (script.attempt_verifyOnce peeked)

private theorem answer_of_renewed {fresh : Secret} (peeked : Token.peek token = .ok hint)
    (suspects : authority.Suspects script token hint tried)
    (read : script.reads 1 = .ok (some fresh)) (full : fresh.isEmpty = false)
    (other : fresh ≠ tried) : script.answer (authority.verify token required) =
      (script.drop 1).answer (authority.verifyOnce token required) := by
  rw [answer_verifyOnce peeked, Script.answer, attempt_of_suspected peeked suspects]
  show _ = authority.judgement token required (script.clock 2) (currentOf (script.reads 1))
  rw [read, currentOf_full full]
  exact if_pos other

/-- A suspected secret has not signed the token. -/
private theorem answer_verifyOnce_of_suspected (peeked : Token.peek token = .ok hint)
    (suspects : authority.Suspects script token hint tried) :
    script.answer (authority.verifyOnce token required) = .error .badSignature := by
  rw [answer_verifyOnce peeked, suspects.current, judgement, suspects.strange]
  rfl

private theorem answer_of_unrenewed {found : Option Secret} (peeked : Token.peek token = .ok hint)
    (suspects : authority.Suspects script token hint tried) (read : script.reads 1 = .ok found)
    (same : ∀ fresh, found = some fresh → fresh.isEmpty = true ∨ fresh = tried) :
    script.answer (authority.verify token required) =
      script.answer (authority.verifyOnce token required) := by
  rw [answer_verifyOnce_of_suspected peeked suspects, Script.answer,
    attempt_of_suspected peeked suspects, read]
  cases found with
  | none => rfl
  | some fresh =>
    rcases same fresh rfl with empty | rfl
    · simp [currentOf, Except.map, Option.filter, empty]
    · rw [currentOf_full suspects.full]
      exact if_neg (not_not_intro rfl)

/-- However the second read ends, it is taken for the first, or the token is not accepted. -/
private theorem answer_cases (peeked : Token.peek token = .ok hint)
    (suspects : authority.Suspects script token hint tried) :
    script.answer (authority.verify token required) =
        (script.drop 1).answer (authority.verifyOnce token required) ∨
      ∃ error, script.answer (authority.verify token required) = .error error := by
  rw [Script.answer, attempt_of_suspected peeked suspects]
  rcases current : currentOf (script.reads 1) with error | _ | fresh
  · exact .inr ⟨error, rfl⟩
  · exact .inr ⟨.badSignature, rfl⟩
  · by_cases other : fresh ≠ tried
    · obtain ⟨read, full⟩ := currentOf_eq_some current
      rw [← answer_of_renewed peeked suspects read full other, Script.answer,
        attempt_of_suspected peeked suspects, current]
      exact .inl rfl
    · exact .inr ⟨.badSignature, if_neg other⟩

/-- Of two secrets, one of which has signed the token, the other has signed it as well unless it makes
the signature bad. -/
private theorem decode_of_not_badSignature {moment : Timestamp} {one other : Secret}
    (fits : authority.codec.decode moment token one ≠ .error .badSignature)
    (accepted : authority.codec.decode moment token other = .ok hint) :
    authority.codec.decode moment token one = .ok hint := by
  obtain ⟨whenever, window⟩ := Token.Codec.decode_eq_ok_iff.mp accepted
  obtain ⟨peeked, -, rest⟩ := Token.Codec.decodeIgnoringTime_eq_ok_iff.mp whenever
  have tagged : Token.Tagged token one := Decidable.byContradiction fun strange =>
    fits (Token.Codec.decode_of_not_tagged peeked strange)
  exact Token.Codec.decode_eq_ok_iff.mpr
    ⟨Token.Codec.decodeIgnoringTime_eq_ok_iff.mpr ⟨peeked, tagged, rest⟩, window⟩

/-- The two reads of a verification come to one. -/
theorem verify_rereads (authority : Authority) (script : Script) (required : Permission)
    (peeked : Token.peek token = .ok hint) : authority.Rereads script token required hint := by
  refine
    { once := ?once, twice := ?twice
      renewed := fun _ _ suspects => answer_of_renewed peeked suspects
      unanswered := ?unanswered, settled := ?settled, genuine := ?genuine, accepted := ?accepted
      refused := ?refused }
  case once =>
    intro none
    rw [Script.calls, attempt_of_unsuspected peeked none, script.attempt_verifyOnce peeked]
  case twice =>
    rintro ⟨tried, suspects⟩
    rw [Script.calls, attempt_of_suspected peeked suspects]
  case unanswered =>
    intro tried error suspects failed
    rw [Script.answer, attempt_of_suspected peeked suspects, currentOf_eq_error.mpr failed]
  case settled =>
    intro same
    by_cases suspected : ∃ tried, authority.Suspects script token hint tried
    · obtain ⟨tried, suspects⟩ := suspected
      obtain ⟨found, read, still⟩ := same tried suspects
      exact answer_of_unrenewed peeked suspects read still
    · exact congrArg Prod.fst (attempt_of_unsuspected peeked suspected)
  case genuine =>
    intro stale fresh first full second fullAgain young early late
    by_cases strange : authority.codec.decode (script.clock 1) token stale = .error .badSignature
    · have other : fresh ≠ stale := by
        rintro rfl
        cases strange.symm.trans early
      rw [answer_of_renewed peeked ⟨first, full, strange, young⟩ second fullAgain other,
        answer_verifyOnce peeked]
      show authority.judgement token required (script.clock 2) (currentOf (script.reads 1)) = _
      rw [second, currentOf_full fullAgain, judgement, late]
      rfl
    · have unsuspected : ¬ ∃ tried, authority.Suspects script token hint tried := by
        rintro ⟨tried, suspects⟩
        cases first.symm.trans suspects.read
        exact strange suspects.strange
      rw [Script.answer, attempt_of_unsuspected peeked unsuspected]
      show script.answer (authority.verifyOnce token required) = _
      rw [answer_verifyOnce peeked, first, currentOf_full full, judgement,
        decode_of_not_badSignature strange early]
      rfl
  case accepted =>
    intro allowed accepted
    have none : ¬ ∃ tried, authority.Suspects script token hint tried := by
      rintro ⟨tried, suspects⟩
      cases (answer_verifyOnce_of_suspected peeked suspects).symm.trans accepted
    have same : script.attempt (authority.verify token required) [] = _ :=
      attempt_of_unsuspected peeked none
    refine ⟨(congrArg Prod.fst same).trans accepted, ?_⟩
    rw [Script.calls, same, script.attempt_verifyOnce peeked]
  case refused =>
    intro first second allowed same
    by_cases suspected : ∃ tried, authority.Suspects script token hint tried
    · obtain ⟨tried, suspects⟩ := suspected
      rcases answer_cases peeked suspects with renewed | ⟨error, failed⟩
      · exact second allowed (renewed.symm.trans same)
      · cases failed.symm.trans same
    · refine first allowed (Eq.trans ?_ same)
      exact (congrArg Prod.fst (attempt_of_unsuspected peeked suspected)).symm

/-- The first read of the secret of ann finds this, five seconds after the sample token was issued; later
ones find the secret that signed it. -/
def sampleScript (first : Option Secret) : Script where
  reads := fun made => .ok (if made = 0 then first else some sampleSecret)
  clock := fun _ => 1005

private theorem decode_sampleToken_soon :
    sample.codec.decode 1005 sampleToken sampleSecret = .ok sampleClaims := by
  rw [Token.Codec.decode_encode encode_sampleClaims rfl]
  rfl

private theorem young_sampleClaims : sample.Young 1005 sampleClaims := by
  constructor <;> decide

/-- The sample token is accepted although an older secret is read at first. -/
theorem verify_rereads_sampleToken : Token.peek sampleToken = .ok sampleClaims ∧
    (sampleScript (some ⟨[1]⟩)).answer (sample.verify sampleToken .readAccount) = .ok true := by
  have rereads : sample.Rereads (sampleScript (some ⟨[1]⟩)) sampleToken .readAccount sampleClaims :=
    verify_rereads sample (sampleScript (some ⟨[1]⟩)) .readAccount peek_sampleToken
  exact ⟨peek_sampleToken, rereads.genuine ⟨[1]⟩ sampleSecret rfl rfl rfl rfl young_sampleClaims
    decode_sampleToken_soon decode_sampleToken_soon⟩

/-- An empty secret, or none, is not read again: the sample token is refused then, although an empty
secret has not signed it, it is young, and a read of the other secret would have it accepted. -/
theorem no_reread_of_empty :
    sample.codec.decode 1005 sampleToken ⟨[]⟩ = .error .badSignature ∧
    sample.Young 1005 sampleClaims ∧
    (sampleScript (some ⟨[]⟩)).reads 1 = .ok (some sampleSecret) ∧
    sampleSecret.isEmpty = false ∧ sampleSecret ≠ ⟨[]⟩ ∧
    ((sampleScript (some ⟨[]⟩)).drop 1).answer (sample.verifyOnce sampleToken .readAccount) =
      .ok true ∧
    (sampleScript (some ⟨[]⟩)).answer (sample.verify sampleToken .readAccount) =
      .error .unknownSubject ∧
    ((sampleScript none).drop 1).answer (sample.verifyOnce sampleToken .readAccount) = .ok true ∧
    (sampleScript none).answer (sample.verify sampleToken .readAccount) =
      .error .unknownSubject := by
  have accepted : ∀ first,
      ((sampleScript first).drop 1).answer (sample.verifyOnce sampleToken .readAccount) =
        .ok true := by
    intro first
    rw [answer_verifyOnce peek_sampleToken]
    show sample.judgement sampleToken .readAccount 1005 (.ok (some sampleSecret)) = .ok true
    rw [judgement, decode_sampleToken_soon]
    rfl
  have refused : ∀ first, currentOf (.ok first) = .ok none →
      (sampleScript first).answer (sample.verify sampleToken .readAccount) =
        .error .unknownSubject := by
    intro first none
    have read : (sampleScript first).reads 0 = .ok first := rfl
    rw [Script.answer, Script.attempt_verify _ peek_sampleToken, read, none]
  have strange : ¬ Token.Tagged sampleToken ⟨[]⟩ := by decide +kernel
  exact ⟨Token.Codec.decode_of_not_tagged peek_sampleToken strange, young_sampleClaims, rfl, rfl,
    by decide, accepted _, refused _ rfl, accepted _, refused _ rfl⟩

end Authority
end Signet
