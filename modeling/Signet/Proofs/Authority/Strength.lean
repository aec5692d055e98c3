import Signet.Proofs.Authority.Issuing
import Signet.Proofs.Authority.Revocation
import Signet.Proofs.Authority.Validity

/-! How strong the secrets are that sign. What is drawn and offered to the store is never weak; but what
signs is what the store answers, however long that is. So a weak secret signs, but only where somebody
else has left it under the key of the subject, or where something answers in place of the store. -/

namespace Signet

/-- It is no shorter than valid settings allow. -/
def Secret.Strong (secret : Secret) : Prop := Settings.leastSecretLength ≤ secret.length

instance (secret : Secret) : Decidable secret.Strong := Nat.decLe _ _

/-- A secret that no call has claimed: it was under the key at the start, or has been put there
directly. -/
def World.Planted (start : World) (history : List Event) (key : String) (secret : Secret) : Prop :=
  (∃ entry, start.store.entries.find? key = some entry ∧ entry.secret = secret) ∨
    ∃ access, .direct access ∈ history ∧ access.Offers key secret

namespace Authority

variable {authority : Authority} {start : World} {calls : Nat → Call} {history : List Event}
  {caller : Nat} {subject token key : String} {permissions : Permission} {fresh secret : Secret}

/-- What a valid authority draws is strong. -/
theorem Valid.strong (valid : authority.Valid)
    (long : fresh.length = authority.settings.secretLength.toNat) : fresh.Strong := by
  rw [Secret.Strong, long]
  exact valid.leastSecretLength_le

/-- Whatever a valid authority claims, it has drawn. -/
theorem strong_of_claim {ttl within : Span} {answer : Except AuthError Secret}
    (run : Run start calls history) (valid : (calls caller).authority.Valid)
    (claimed : .reached caller (.claim key fresh ttl) within answer ∈ history) : fresh.Strong := by
  obtain ⟨rest, follows⟩ := run.follows caller
  have drawn := drawn_of_claim follows (mem_exchangesOf_of_mem claimed)
  exact valid.strong (run.admits.length_drawn drawn)

/-- What a store answers to a claim is strong or has been planted under the key. -/
theorem strong_or_planted_of_claim {ttl within : Span} (run : Run start calls history)
    (valid : ∀ caller, (calls caller).authority.Valid)
    (claimed : .reached caller (.claim key fresh ttl) within (.ok secret) ∈ history) :
    secret.Strong ∨ start.Planted history key secret := by
  rcases World.origin_of_claim run.admits claimed with before | ⟨event, member, offers⟩
  · exact .inr (.inl before)
  rcases offers.cases with ⟨access, rfl, written⟩ | ⟨other, ttl, within, answer, rfl⟩
  · exact .inr (.inr ⟨access, member, written⟩)
  · exact .inl (strong_of_claim run (valid other) member)

/-- What a claim is answered signs a token, however long it is. -/
structure Signing (start : World) (history : List Event) (subject token : String)
    (fresh secret : Secret) : Prop where
  tagged : Token.Tagged token secret
  /-- What is offered is strong. -/
  offered : fresh.Strong
  /-- A store shows no empty secret. -/
  full : (∀ event ∈ history, event.Honest) → secret.isEmpty = false
  /-- A store shows no weak secret either, unless it has been planted there. -/
  origin : (∀ event ∈ history, event.Honest) →
    secret.Strong ∨ start.Planted history (Secret.key subject) secret

/-- Whatever else goes on, a token is issued if and only if the claim for it has been answered with a
secret, and signed with that one. It is strong, unless a weak one has been planted under the key of the
subject or something has answered in place of the store. -/
theorem signed_as_claimed {result : Except AuthError String} (run : Run start calls history)
    (valid : ∀ caller, (calls caller).authority.Valid)
    (made : calls caller = ⟨authority, .issue subject permissions⟩)
    (finished : (authority.issue subject permissions).run.Yields (exchangesOf caller history)
      result) :
    (∀ token, result = .ok token → ∃ fresh secret,
      authority.claim subject fresh (.ok secret) ∈ exchangesOf caller history) ∧
    ∀ fresh secret, authority.claim subject fresh (.ok secret) ∈ exchangesOf caller history →
      ∃ token, result = .ok token ∧ Signing start history subject token fresh secret := by
  constructor
  · rintro token rfl
    obtain ⟨-, fresh, secret, others, path, -⟩ := issue_ok_path finished
    rw [path]
    exact ⟨fresh, secret, List.mem_cons_of_mem _ (List.mem_cons_self ..)⟩
  intro fresh secret claimed
  obtain ⟨token, rfl⟩ := exists_ok_of_claimed finished claimed
  obtain ⟨-, drawn, answered, others, path, quiet, moment, claims, -, -, encoded⟩ :=
    issue_ok_path finished
  have authorized : authority.Valid := by
    have valid := valid caller
    rwa [made] at valid
  obtain ⟨rfl, same⟩ := (claim_mem_iff quiet).mp (path ▸ claimed)
  obtain rfl := Except.ok.inj same
  have long : fresh.length = authority.settings.secretLength.toNat := by
    refine run.admits.length_drawn (?_ : authority.draw (.ok fresh) ∈ exchangesOf caller history)
    rw [path]
    exact List.mem_cons_self ..
  have offered := authorized.strong long
  refine ⟨token, rfl, Token.Codec.tagged_of_encode encoded, offered, ?_, ?_⟩
  · intro honest
    obtain ⟨front, back, rfl⟩ := reached_of_answered honest claimed
    have answered := (World.admits_append_iff.mp run.admits).2.1.answered
    exact (World.keeps_claimed (authorized.isEmpty_eq_false long) answered).1
  · intro honest
    obtain ⟨front, back, rfl⟩ := reached_of_answered honest claimed
    exact strong_or_planted_of_claim run valid (List.mem_append_right _ (List.mem_cons_self ..))

/-- The sample token has been signed with what has been drawn for it, and that is strong. -/
theorem sampleToken_signed_as_claimed : ∃ first second,
    (sample.issue "ann" .readAccount).run.Yields (exchangesOf 0 (sampleIssue first second))
      (.ok sampleToken) ∧
    Signing ⟨0, Store.empty⟩ (sampleIssue first second) "ann" sampleToken sampleSecret
      sampleSecret := by
  have issued : ∃ first second, (sample.issue "ann" .readAccount).run.Yields
      (exchangesOf 0 (sampleIssue first second)) (.ok sampleToken) :=
    yields_issue (by decide) rfl rfl encode_sampleClaims
  obtain ⟨first, second, issued⟩ := issued
  have claimed : sample.claim "ann" sampleSecret (.ok sampleSecret) ∈
      exchangesOf 0 (sampleIssue first second) := List.mem_cons_of_mem _ (List.mem_cons_self ..)
  obtain ⟨token, same, signing⟩ := (signed_as_claimed (run_sampleIssue issued)
    (fun _ => sample_valid) rfl issued).2 sampleSecret sampleSecret claimed
  obtain rfl := Except.ok.inj same
  exact ⟨first, second, issued, signing⟩

/-- A secret stands under the key of ann. -/
def samplePlanted (secret : Secret) : Deployment Store :=
  { Deployment.sampleStart with
    store := (World.use ⟨0, Store.empty⟩
      (.put (Dict.ofList [(Secret.key "ann", secret)]) (Span.ofSeconds 600))).store }

/-- A secret is what the next claim is answered, in place of the store. -/
def sampleMisled (secret : Secret) : Deployment Store :=
  { Deployment.sampleStart with troubles := { claim := [.answering (some secret)] } }

/-- The sample token, signed with this secret. -/
def sampleSigned (secret : Secret) : String := Token.ofParts (sample.codec.parts sampleClaims secret)

private theorem encode_sampleSigned (secret : Secret) :
    sample.codec.encode sampleClaims secret = .ok (sampleSigned secret) :=
  Token.Codec.encode_eq_ok_iff.mpr ⟨rfl, rfl⟩

/-- A single byte signs where it has been planted, and no byte at all where something answers in place of
the store. -/
theorem weak_secrets_sign : sample.Valid ∧
    ((samplePlanted ⟨[7]⟩).attempt (sampleOccasion 7).facilities
      (sample.issue "ann" .readAccount)).1 = .ok (sampleSigned ⟨[7]⟩) ∧
    Token.Tagged (sampleSigned ⟨[7]⟩) ⟨[7]⟩ ∧ ¬ Secret.Strong ⟨[7]⟩ ∧
    ((sampleMisled ⟨[]⟩).attempt (sampleOccasion 7).facilities
      (sample.issue "ann" .readAccount)).1 = .ok (sampleSigned ⟨[]⟩) ∧
    Token.Tagged (sampleSigned ⟨[]⟩) ⟨[]⟩ ∧ Secret.isEmpty ⟨[]⟩ = true := by
  have issued : ∀ (deployment : Deployment Store) (secret : Secret),
      (∀ first second, Operation.Given (Deployment.answer (sampleOccasion 7).facilities) deployment
        [sample.draw (.ok sampleSecret), sample.claim "ann" sampleSecret (.ok secret),
          ⟨.report first, ()⟩, ⟨.report second, ()⟩]) →
      (deployment.attempt (sampleOccasion 7).facilities (sample.issue "ann" .readAccount)).1 =
        .ok (sampleSigned secret) := by
    intro deployment secret given
    have named : "ann" ≠ "" := by decide
    obtain ⟨first, second, yields⟩ := yields_issue named rfl rfl (encode_sampleSigned secret)
    exact Operation.run_of_yields (given first second) yields
  exact ⟨sample_valid, issued _ _ fun _ _ => ⟨rfl, rfl, rfl, rfl, trivial⟩,
    Token.Codec.tagged_of_encode (encode_sampleSigned _), by decide,
    issued _ _ fun _ _ => ⟨rfl, rfl, rfl, rfl, trivial⟩,
    Token.Codec.tagged_of_encode (encode_sampleSigned _), rfl⟩

end Authority
end Signet
