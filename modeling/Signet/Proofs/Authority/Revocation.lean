import Mathlib.Data.List.Nodup
import Signet.Proofs.Authority.Claiming
import Signet.Proofs.Authority.Trust

/-! Revocation under concurrency. Once the key of a subject has been dropped, a secret that was
claimed for it before never comes back, in whatever order the steps of calls come; so no token that
only this secret has signed is ever accepted again. -/

namespace Signet

/-- The secret that a caller draws in an event. -/
def Event.draw? : Event → Option (Nat × Secret)
  | aside caller ⟨.fresh _, .ok secret⟩ => some (caller, secret)
  | aside .. | reached .. | direct _ | passed _ => none

/-- Callers and the secrets that they draw. -/
def drawsOf (history : List Event) : List (Nat × Secret) := history.filterMap Event.draw?

/-- No secret is drawn twice, and none that was there at the start. -/
structure World.Unrepeated (start : World) (history : List Event) : Prop where
  once : ((drawsOf history).map Prod.snd).Nodup
  unheld : ∀ draw ∈ drawsOf history, ∀ key entry,
    start.store.entries.find? key = some entry → entry.secret ≠ draw.2

theorem mem_drawsOf {caller length : Nat} {secret : Secret} {history : List Event}
    (drawn : ⟨.fresh length, .ok secret⟩ ∈ exchangesOf caller history) :
    (caller, secret) ∈ drawsOf history :=
  List.mem_filterMap.mpr ⟨_, mem_exchangesOf_fresh drawn, rfl⟩

/-- What is drawn only once has been drawn by one caller. -/
theorem World.Unrepeated.same_caller {start : World} {history : List Event} {first second : Nat}
    {secret : Secret} (unrepeated : start.Unrepeated history)
    (one : (first, secret) ∈ drawsOf history) (two : (second, secret) ∈ drawsOf history) :
    first = second :=
  congrArg Prod.fst (List.inj_on_of_nodup_map unrepeated.once one two rfl)

/-- An event that drops a key. -/
def Event.Drops (key : String) (event : Event) : Prop :=
  ∃ keys, event.access? = some (.delete keys) ∧ key ∈ keys

theorem Event.Drops.find? {world : World} {event : Event} {key : String}
    (drops : event.Drops key) : (event.step world).store.entries.find? key = none := by
  obtain ⟨keys, used, member⟩ := drops
  rw [Event.step_eq_use used]
  show (world.store.delete keys).entries.find? key = none
  rw [Store.find?_delete, if_pos member]

/-- A secret is offered by a caller's claim or by somebody else. -/
theorem Event.Offers.cases {event : Event} {key : String} {secret : Secret}
    (offers : event.Offers key secret) :
    (∃ access, event = .direct access ∧ access.Offers key secret) ∨
      ∃ caller ttl within answer,
        event = .reached caller (.claim key secret ttl) within answer := by
  obtain ⟨access, used, offers⟩ := offers
  cases event with
  | aside caller exchange => cases used
  | reached caller call within answer =>
    cases used
    cases call with
    | get other => exact offers.elim
    | claim other fresh ttl =>
      obtain ⟨rfl, rfl⟩ := offers
      exact .inr ⟨caller, ttl, within, answer, rfl⟩
    | delete other => exact offers.elim
  | direct access => cases used; exact .inl ⟨access, rfl, offers⟩
  | passed span => cases used

section

variable {start : World} {calls : Nat → Call} {history : List Event} {key : String}
  {secret : Secret}

/-- What a caller claims it has drawn. -/
theorem Run.drawn_of_claim (run : Run start calls history) {caller : Nat} {ttl within : Span}
    {answer : Except AuthError Secret}
    (claimed : .reached caller (.claim key secret ttl) within answer ∈ history) :
    (caller, secret) ∈ drawsOf history := by
  obtain ⟨rest, follows⟩ := run.follows caller
  exact mem_drawsOf (Authority.drawn_of_claim follows (mem_exchangesOf_of_mem claimed))

/-- A caller claims only once. -/
theorem Run.claims_once (run : Run start calls history) {front back : List Event}
    {caller : Nat} {first second : Secret} {other : String} {ttl span within wait : Span}
    {answer result : Except AuthError Secret}
    (made : history = front ++ .reached caller (.claim key second ttl) within answer :: back) :
    .reached caller (.claim other first span) wait result ∉ front := by
  intro before
  subst made
  obtain ⟨rest, follows⟩ := run.follows caller
  obtain ⟨-, none⟩ := Authority.perform_frugal follows _ _ _ _ _ _ _
    (exchangesOf_reached front back)
  exact none _ (mem_exchangesOf_of_mem before) trivial

variable {earlier later : List Event} {deletion : Event} {issuer : Nat} {fresh old : Secret}
  {ttl within : Span}

/-- A secret that a claim has answered was there at the start or has been offered before. -/
theorem World.origin_of_claim (admits : start.Admits earlier)
    (returned : .reached issuer (.claim key fresh ttl) within (.ok old) ∈ earlier) :
    (∃ entry, start.store.entries.find? key = some entry ∧ entry.secret = old) ∨
      ∃ event ∈ earlier, event.Offers key old := by
  obtain ⟨front, back, rfl⟩ := List.append_of_mem returned
  obtain ⟨fits, -⟩ := (World.admits_append_iff.mp admits).2
  have answered := fits.answered
  rcases (start.after front).claim_cases key fresh ttl with ⟨error, -, failed⟩ | ⟨-, claimed, -⟩
  · rw [failed] at answered
    cases answered
  rw [claimed] at answered
  cases held : (start.after front).held key with
  | none =>
    rw [held] at answered
    cases answered
    exact .inr ⟨_, returned, .claim key fresh ttl, rfl, rfl, rfl⟩
  | some secret =>
    rw [held] at answered
    cases answered
    obtain ⟨entry, live, rfl⟩ := Option.map_eq_some_iff.mp held
    rcases World.origin (Store.live?_eq_some_iff.mp live).1 with before | ⟨event, member, offers⟩
    · exact .inl before
    · exact .inr ⟨event, List.mem_append_left _ member, offers⟩

/-- A secret that was claimed before a key was dropped is not offered for it afterwards: who has
drawn it has claimed already, and nobody else can. -/
theorem Run.not_offered_again (run : Run start calls history)
    (made : history = earlier ++ deletion :: later) (unrepeated : start.Unrepeated history)
    (unwritten : ∀ access, .direct access ∈ history → ¬ access.Offers key old)
    (returned : .reached issuer (.claim key fresh ttl) within (.ok old) ∈ earlier) :
    ∀ event ∈ later, ¬ event.Offers key old := by
  intro event member offers
  have before : ∀ event ∈ earlier, event ∈ history := by
    intro event member
    rw [made]
    exact List.mem_append_left _ member
  have behind : event ∈ history := by
    rw [made]
    exact List.mem_append_right _ (List.mem_cons_of_mem _ member)
  rcases offers.cases with ⟨access, rfl, written⟩ | ⟨caller, span, wait, answer, rfl⟩
  · exact unwritten access behind written
  have drawn := run.drawn_of_claim behind
  have admits : start.Admits earlier := by
    have admits := run.admits
    rw [made] at admits
    exact (World.admits_append_iff.mp admits).1
  rcases World.origin_of_claim admits returned with ⟨entry, found, same⟩ | ⟨first, early, offered⟩
  · exact unrepeated.unheld _ drawn key entry found same
  rcases offered.cases with ⟨access, rfl, written⟩ | ⟨other, _, _, _, rfl⟩
  · exact unwritten access (before _ early) written
  -- Both claims are due to the one caller who has drawn the secret, but each caller claims once.
  obtain rfl := unrepeated.same_caller (run.drawn_of_claim (before _ early)) drawn
  obtain ⟨front, back, rfl⟩ := List.append_of_mem member
  have split : history = (earlier ++ deletion :: front) ++
      .reached other (.claim key old span) wait answer :: back := by
    rw [made]
    simp
  exact run.claims_once split (List.mem_append_left _ early)

/-- After a key has been dropped, the secret that was claimed for it before is never visible. -/
theorem Run.held_ne (run : Run start calls history)
    (made : history = earlier ++ deletion :: later) (drops : deletion.Drops key)
    (unrepeated : start.Unrepeated history)
    (unwritten : ∀ access, .direct access ∈ history → ¬ access.Offers key old)
    (returned : .reached issuer (.claim key fresh ttl) within (.ok old) ∈ earlier)
    {front back : List Event} (reached : later = front ++ back) :
    (start.after (earlier ++ deletion :: front)).held key ≠ some old := by
  intro held
  obtain ⟨entry, live, rfl⟩ := Option.map_eq_some_iff.mp held
  have found := (Store.live?_eq_some_iff.mp live).1
  rw [World.after_append, World.after_cons] at found
  rcases World.origin found with ⟨entry, kept, -⟩ | ⟨event, member, offers⟩
  · rw [drops.find?] at kept
    cases kept
  · refine run.not_offered_again made unrepeated unwritten returned event ?_ offers
    rw [reached]
    exact List.mem_append_left _ member

end

namespace Authority

variable {authority : Authority} {start : World} {calls : Nat → Call}
  {history earlier later : List Event} {deletion : Event} {issuer verifier : Nat}
  {fresh old : Secret} {ttl within : Span} {token : String} {required : Permission}
  {claims : Claims}

/-- What makes a token be accepted is a secret that was visible under the key of its subject when
the store was asked for it, and that has signed the token. -/
private theorem signed_of_accepted {allowed : Bool} (admits : start.Admits history)
    (honest : ∀ event ∈ history, event.Honest) (peeked : Token.peek token = .ok claims)
    (accepted : (authority.verify token required).run.Yields (exchangesOf verifier history)
      (.ok allowed)) :
    ∃ secret front within back, history = front ++
      .reached verifier (.get (Secret.key claims.subject)) within (.ok (some secret)) :: back ∧
      (start.after front).held (Secret.key claims.subject) = some secret ∧
      Token.SignedUnder token secret := by
  obtain ⟨hint, secret, moment, found, peekedToo, answered, -, -, decoded, -⟩ :=
    verify_ok_path accepted
  cases peekedToo.symm.trans peeked
  obtain ⟨parts, algorithm, -, read, named, signature, -⟩ := Token.Codec.decode_eq_ok decoded
  obtain ⟨front, back, rfl⟩ := reached_of_answered honest answered
  exact ⟨secret, front, _, back, rfl, World.held_of_answered admits, parts, algorithm, read, named,
    signature⟩

/-- Revocation is absolute. Once the key of a subject has been dropped, a verification that reaches
the store only afterwards accepts no token of the subject that is signed with a secret claimed for
it before and with no other secret that becomes visible later. This holds for every order of the
steps of any calls, as long as no secret is drawn twice and nobody else writes the old secret. -/
theorem verify_not_ok_after_revocation (made : history = earlier ++ deletion :: later)
    (run : Run start calls history) (honest : ∀ event ∈ history, event.Honest)
    (drops : deletion.Drops (Secret.key claims.subject))
    (returned : .reached issuer (.claim (Secret.key claims.subject) fresh ttl) within (.ok old) ∈
      earlier)
    (unrepeated : start.Unrepeated history)
    (unwritten : ∀ access, .direct access ∈ history →
      ¬ access.Offers (Secret.key claims.subject) old)
    (peeked : Token.peek token = .ok claims)
    (alone : ∀ front back secret, later = front ++ back →
      (start.after (earlier ++ deletion :: front)).held (Secret.key claims.subject) = some secret →
      Token.SignedUnder token secret → secret = old)
    (late : ∀ event ∈ earlier, ∀ call within answer, event ≠ .reached verifier call within answer)
    (allowed : Bool) :
    ¬ (authority.verify token required).run.Yields (exchangesOf verifier history)
      (.ok allowed) := by
  intro accepted
  obtain ⟨secret, front, span, back, asked, held, signed⟩ :=
    signed_of_accepted run.admits honest peeked accepted
  -- The store was asked after the deletion, so what it answered was visible then.
  have other : .reached verifier (.get (Secret.key claims.subject)) span (.ok (some secret)) ≠
      deletion := by
    rintro rfl
    obtain ⟨keys, used, -⟩ := drops
    cases used
  obtain ⟨between, rfl⟩ : ∃ between, front = earlier ++ deletion :: between := by
    rcases List.append_eq_append_iff.mp (made.symm.trans asked) with
      ⟨_ | ⟨first, between⟩, rfl, same⟩ | ⟨_ | ⟨first, behind⟩, rfl, same⟩
    · exact absurd (List.cons.inj same).1.symm other
    · exact ⟨between, by rw [(List.cons.inj same).1]⟩
    · exact absurd (List.cons.inj same).1 other
    · refine absurd (List.cons.inj same).1.symm (late first ?_ _ _ _)
      exact List.mem_append_right _ (List.mem_cons_self ..)
  have reached : later = between ++ .reached verifier (.get (Secret.key claims.subject)) span
      (.ok (some secret)) :: back := by
    have same := made.symm.trans asked
    simpa using same
  obtain rfl := alone between _ secret reached held signed
  exact run.held_ne made drops unrepeated unwritten returned reached held

/-- The secret of the sample token is claimed, the tokens of its subject are revoked, and then a
verification of the token reaches the store. -/
def sampleRevocation : List Event := [
  .aside 0 (sample.draw (.ok sampleSecret)),
  .reached 0 (.claim (Secret.key "ann") sampleSecret sample.settings.secretTtlSpan)
    sample.settings.storeTimeoutSpan (.ok sampleSecret),
  .reached 1 (.delete (Secret.key "ann")) sample.settings.storeTimeoutSpan (.ok ()),
  .reached 2 (.get (Secret.key "ann")) sample.settings.storeTimeoutSpan (.ok none)]

def sampleCalls : Nat → Call
  | 0 => ⟨sample, .issue "ann" .readAccount⟩
  | 1 => ⟨sample, .revokeSubject "ann"⟩
  | _ => ⟨sample, .verify sampleToken .readAccount⟩

theorem run_sampleRevocation : Run ⟨0, Store.empty⟩ sampleCalls sampleRevocation where
  admits := ⟨rfl, .inl rfl, .inl rfl, .inl rfl, trivial⟩
  follows
    | 0 => ⟨_, .ask (.ask (.here _))⟩
    | 1 => ⟨_, .ask (.here _)⟩
    | 2 => by
      show ∃ rest, (sample.verify sampleToken .readAccount).run.Follows _ rest
      rw [verify, peek_sampleToken]
      exact ⟨_, .ask (.here _)⟩
    | _ + 3 => ⟨_, .here _⟩

/-- After its subject has been revoked, the sample token is not accepted. -/
theorem verify_sampleToken_not_ok :
    ¬ (sample.verify sampleToken .readAccount).run.Yields (exchangesOf 2 sampleRevocation)
      (.ok true) := by
  have made : sampleRevocation = sampleRevocation.take 2 ++
      .reached 1 (.delete (Secret.key "ann")) sample.settings.storeTimeoutSpan (.ok ()) ::
      sampleRevocation.drop 3 := rfl
  have honest : ∀ event ∈ sampleRevocation, event.Honest := by
    simp [sampleRevocation, Event.Honest]
  have returned : .reached 0 (.claim (Secret.key "ann") sampleSecret
      sample.settings.secretTtlSpan) sample.settings.storeTimeoutSpan (.ok sampleSecret) ∈
      sampleRevocation.take 2 := .tail _ (.head _)
  have unrepeated : World.Unrepeated ⟨0, Store.empty⟩ sampleRevocation := by
    refine ⟨by decide, ?_⟩
    intro draw drawn key entry found
    cases found
  have unwritten : ∀ access, .direct access ∈ sampleRevocation →
      ¬ access.Offers (Secret.key "ann") sampleSecret := by
    simp [sampleRevocation]
  have alone : ∀ front back secret, sampleRevocation.drop 3 = front ++ back →
      (World.after ⟨0, Store.empty⟩ (sampleRevocation.take 2 ++
        .reached 1 (.delete (Secret.key "ann")) sample.settings.storeTimeoutSpan (.ok ()) ::
        front)).held (Secret.key "ann") = some secret →
      Token.SignedUnder sampleToken secret → secret = sampleSecret := by
    intro front back secret split held
    rcases front with _ | ⟨first, _ | ⟨second, front⟩⟩
    · cases held
    · cases split
      cases held
    · cases split
  have late : ∀ event ∈ sampleRevocation.take 2, ∀ call within answer,
      event ≠ .reached 2 call within answer := by
    simp [sampleRevocation]
  exact verify_not_ok_after_revocation made run_sampleRevocation honest ⟨_, rfl, .head _⟩ returned
    unrepeated unwritten peek_sampleToken alone late true

end Authority
end Signet
