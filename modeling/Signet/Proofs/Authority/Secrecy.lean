import Signet.Proofs.Authority.Path
import Signet.Proofs.Operation.Secrecy
import Signet.Proofs.Token.RoundTrip

/-! What the authority does with other secrets in the same places. It asks the same, comes to the same
answers and hands out tokens that state the same. -/

namespace Signet

namespace Token

variable {matching : Matching} {codec : Codec} {token other : String} {secret : Secret}
  {claims : Claims}

/-- Tokens that state the same, and are found to be signed with secrets in the same places. -/
structure Twin (matching : Matching) (token other : String) : Prop where
  peeked : peek token = peek other
  signed : ∀ {one two}, matching.pairs one two → Token.signed token one = Token.signed other two

/-- Tokens that a codec has written with the same claims and secrets in the same place. -/
def Written (matching : Matching) (codec : Codec) (token other : String) : Prop :=
  ∃ claims one two, matching.pairs one two ∧ codec.encode claims one = .ok token ∧
    codec.encode claims two = .ok other

/-- The tags of a token under different ones of these secrets are different. -/
def SignedOnce (token : String) (secrets : List Secret) : Prop :=
  ∀ one ∈ secrets, ∀ two ∈ secrets, one ≠ two → ¬ (Tagged token one ∧ Tagged token two)

namespace Codec

theorem signed_of_encode (encoded : codec.encode claims secret = .ok token) :
    signed token secret = .ok ⟨claims, true⟩ :=
  signed_eq_ok_iff.mpr ⟨_, _, reading_of_encode encoded, rfl⟩

theorem peek_of_encode (encoded : codec.encode claims secret = .ok token) :
    peek token = .ok claims :=
  peek_encode encoded (Claims.check_eq_ok_iff.mp (encode_eq_ok_iff.mp encoded).1).1

end Codec

/-- Whether claims are written into a token depends on the claims alone. -/
theorem Written.of_encode {one two : Secret} (paired : matching.pairs one two) (codec : Codec)
    (claims : Claims) :
    Agree (Written matching codec) (codec.encode claims one) (codec.encode claims two) := by
  cases checked : claims.check with
  | ok _ =>
    have encoded : ∀ secret, codec.encode claims secret = .ok (ofParts (codec.parts claims secret)) :=
      fun _ => Codec.encode_eq_ok_iff.mpr ⟨checked, rfl⟩
    rw [encoded, encoded]
    exact .ok ⟨claims, one, two, paired, encoded one, encoded two⟩
  | error error =>
    rw [Codec.encode_eq_error checked, Codec.encode_eq_error checked]
    exact .error error

/-- If tags under different secrets differ, each of two tokens counts under the secret that it has been
written with and under no other. -/
theorem Written.twin {here there : List Secret} (written : Written matching codec token other)
    (drawn : ∀ {one two}, matching.pairs one two → one ∈ here ∧ two ∈ there)
    (first : SignedOnce token here) (second : SignedOnce other there) :
    Twin matching token other := by
  obtain ⟨claims, one, two, paired, encoded, also⟩ := written
  have peeked := Codec.peek_of_encode encoded
  have again := Codec.peek_of_encode also
  refine ⟨peeked.trans again.symm, ?_⟩
  intro left right pair
  by_cases same : left = one
  · obtain rfl : right = two := (matching.same_iff pair paired).mp same
    rw [same, Codec.signed_of_encode encoded, Codec.signed_of_encode also]
  · have differ : right ≠ two := mt (matching.same_iff pair paired).mpr same
    have strange : ¬ Tagged token left := fun tagged =>
      first left (drawn pair).1 one (drawn paired).1 same ⟨tagged, Codec.tagged_of_encode encoded⟩
    have unknown : ¬ Tagged other right := fun tagged =>
      second right (drawn pair).2 two (drawn paired).2 differ ⟨tagged, Codec.tagged_of_encode also⟩
    rw [signed_of_not_tagged peeked strange, signed_of_not_tagged again unknown]

theorem Twin.decode_eq {one two : Secret} (twin : Twin matching token other)
    (paired : matching.pairs one two) (codec : Codec) (now : Timestamp) :
    codec.decode now token one = codec.decode now other two := by
  rw [Codec.decode, Codec.decode, twin.signed paired]

theorem Twin.decodeIgnoringTime_eq {one two : Secret} (twin : Twin matching token other)
    (paired : matching.pairs one two) (codec : Codec) :
    codec.decodeIgnoringTime token one = codec.decodeIgnoringTime other two := by
  rw [Codec.decodeIgnoringTime, Codec.decodeIgnoringTime, twin.signed paired]

end Token

namespace Authority

open Attempt (Parallel)

variable {matching : Matching} {authority : Authority} {subject token other : String}
  {permissions required : Permission} {one two : Secret}

theorem parallel_reject {α β : Type} {related : α → β → Prop} (subject : String)
    (error : AuthError) :
    Parallel matching related (reject subject error) (reject subject error) := by
  unfold reject
  dsimp only
  split
  all_goals exact (Parallel.report _ _ _).bind fun _ _ _ => Parallel.throw error

theorem parallel_rejecting {α β : Type} {related : α → β → Prop} {first : Attempt α}
    {second : Attempt β} (parallel : Parallel matching related first second) (subject : String) :
    Parallel matching related (rejecting subject first) (rejecting subject second) :=
  parallel.tryCatch fun error => parallel_reject subject error

theorem parallel_issuanceFailure {α β : Type} {related : α → β → Prop} (error : AuthError) :
    Parallel matching related (issuanceFailure error) (issuanceFailure error) := by
  unfold issuanceFailure
  split
  · exact (Parallel.report _ _ _).bind fun _ _ _ => Parallel.throw _
  · exact Parallel.throw _

/-- That a secret is empty is the same as that the other one is. -/
theorem parallel_currentSecret (authority : Authority) (subject : String) :
    Parallel matching (Option.Rel matching.pairs) (authority.currentSecret subject)
      (authority.currentSecret subject) := by
  unfold currentSecret
  refine (Parallel.store (.get _) _).bind ?_
  rintro _ _ (paired | _)
  · obtain ⟨full, also⟩ := matching.full paired
    simpa [Option.filter, full, also] using Parallel.pure (.some paired)
  · exact Parallel.pure .none

/-- Whether a secret has been created is told by whether it is the one that has been drawn. -/
theorem parallel_claimSecret (authority : Authority)
    (some : authority.settings.secretLength.toNat ≠ 0) (subject : String) :
    Parallel matching matching.pairs (authority.claimSecret subject)
      (authority.claimSecret subject) := by
  unfold claimSecret
  refine (Parallel.lift (.query (.fresh some))).bind ?_
  intro _ _ agree
  cases agree with
  | @ok fresh also drawn =>
    refine (Parallel.store (.claim _ _ drawn) _).bind fun left right paired => ?_
    dsimp only
    have created : left = fresh ↔ right = also := matching.same_iff paired drawn
    simp only [created]
    split
    all_goals exact (Parallel.report _ _ _).bind fun _ _ _ => Parallel.pure paired
  | error reason => exact (Parallel.report _ _ _).bind fun _ _ _ => Parallel.throw _

theorem parallel_stampTime (authority : Authority) :
    Operation.Parallel matching Eq authority.stampTime authority.stampTime := by
  unfold stampTime
  split
  · exact .done rfl
  · exact .query .time

theorem parallel_sign (paired : matching.pairs one two) :
    Parallel matching (Token.Written matching authority.codec)
      (authority.sign subject permissions one) (authority.sign subject permissions two) := by
  unfold sign
  refine (Parallel.lift (parallel_stampTime authority)).bind ?_
  rintro moment _ rfl
  refine (Parallel.ofResult (.rfl_eq _)).bind ?_
  rintro claims _ rfl
  refine (Parallel.ofResult (Token.Written.of_encode paired authority.codec claims)).bind ?_
  exact fun _ _ written => (Parallel.report _ _ _).bind fun _ _ _ => Parallel.pure written

/-- Tokens that are issued state the same. -/
theorem parallel_issue (authority : Authority)
    (some : authority.settings.secretLength.toNat ≠ 0) (subject : String) (permissions : Permission) :
    Parallel matching (Token.Written matching authority.codec)
      (authority.issue subject permissions) (authority.issue subject permissions) := by
  by_cases named : subject = ""
  · rw [named]
    exact Parallel.throw _
  · rw [issue_eq_sign named]
    refine Parallel.bind ?_ fun _ _ paired => parallel_sign paired
    exact (parallel_claimSecret authority some subject).tryCatch parallel_issuanceFailure

theorem parallel_decode (twin : Token.Twin matching token other) (paired : matching.pairs one two) :
    Parallel matching Eq (authority.decode token one) (authority.decode other two) := by
  unfold decode
  refine Parallel.time.bind ?_
  rintro now _ rfl
  rw [twin.decode_eq paired]
  exact Parallel.ofResult (.rfl_eq _)

/-- Whether the secret has changed is told by whether it is the one that has been tried. -/
theorem parallel_reverify (twin : Token.Twin matching token other)
    (paired : matching.pairs one two) (subject : String) :
    Parallel matching Eq (authority.reverify token subject one)
      (authority.reverify other subject two) := by
  unfold reverify
  refine (parallel_currentSecret authority subject).bind ?_
  intro _ _ found
  cases found with
  | @some fresh also again =>
    dsimp only
    have changed : fresh ≠ one ↔ also ≠ two := not_congr (matching.same_iff again paired)
    simp only [changed]
    split
    · exact (Parallel.report _ _ _).bind fun _ _ _ => parallel_decode twin again
    · exact Parallel.throw _
  | none => exact Parallel.throw _

theorem parallel_accept (twin : Token.Twin matching token other) (paired : matching.pairs one two)
    (hint : Claims) :
    Parallel matching Eq (authority.accept token hint one) (authority.accept other hint two) := by
  unfold accept
  refine Parallel.time.bind ?_
  rintro now _ rfl
  rw [twin.decode_eq paired]
  split
  · exact Parallel.pure rfl
  · split
    · exact parallel_reverify twin paired hint.subject
    · exact Parallel.throw _
  · exact Parallel.throw _

theorem parallel_verify (twin : Token.Twin matching token other) (required : Permission) :
    Parallel matching Eq (authority.verify token required) (authority.verify other required) := by
  unfold verify
  rw [twin.peeked]
  refine (Parallel.ofResult (.rfl_eq _)).bind ?_
  rintro hint _ rfl
  refine (parallel_currentSecret authority hint.subject).bind ?_
  rintro _ _ (paired | _)
  · refine (parallel_rejecting (parallel_accept twin paired hint) hint.subject).bind ?_
    rintro claims _ rfl
    exact (Parallel.report _ _ _).bind fun _ _ _ => Parallel.pure rfl
  · exact parallel_reject _ _

theorem parallel_revokeSubject (authority : Authority) (subject : String) :
    Parallel matching Eq (authority.revokeSubject subject) (authority.revokeSubject subject) := by
  unfold revokeSubject
  exact (Parallel.store (.delete _) _).bind fun _ _ _ => Parallel.report _ _ _

theorem parallel_revoke (twin : Token.Twin matching token other) :
    Parallel matching Eq (authority.revoke token) (authority.revoke other) := by
  unfold revoke
  rw [twin.peeked]
  refine (Parallel.ofResult (.rfl_eq _)).bind ?_
  rintro hint _ rfl
  refine (parallel_currentSecret authority hint.subject).bind ?_
  rintro _ _ (paired | _)
  · dsimp only
    rw [twin.decodeIgnoringTime_eq paired]
    refine (parallel_rejecting (Parallel.ofResult (.rfl_eq _)) hint.subject).bind ?_
    exact fun _ _ _ => parallel_revokeSubject authority hint.subject
  · exact Parallel.report _ _ _

end Authority
end Signet
