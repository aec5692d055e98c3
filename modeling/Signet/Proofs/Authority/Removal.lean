import Signet.Proofs.Authority.Atomicity
import Signet.Proofs.Authority.Revocation
import Signet.Proofs.Token.Acceptance

/-! What a revocation removes. A token is revoked by reading the secret of its subject, checking the
token with it, and dropping whatever stands under the key by then. So what is removed is the secret
that has signed the token, or one that was created for the subject in between. -/

namespace Signet

/-- While nobody writes directly, a secret under a key was there at the start, or a caller has claimed
it when none was visible. -/
theorem World.origin_of_unwritten {start : World} {history : List Event} {key : String} {entry : Entry}
    (unwritten : ∀ access, .direct access ∈ history → ¬ access.Writes)
    (found : (start.after history).store.entries.find? key = some entry) :
    (∃ old, start.store.entries.find? key = some old ∧ old.secret = entry.secret) ∨
      ∃ front caller ttl within answer back,
        history = front ++ .reached caller (.claim key entry.secret ttl) within answer :: back ∧
        (start.after front).held key = none := by
  induction history generalizing start with
  | nil => exact .inl ⟨entry, found, rfl⟩
  | cons event history ih =>
    have others : ∀ access, .direct access ∈ history → ¬ access.Writes :=
      fun access member => unwritten access (List.mem_cons_of_mem _ member)
    rcases ih others found with ⟨old, held, same⟩ | ⟨front, caller, ttl, within, answer, back, rfl, none⟩
    · cases event with
      | aside caller exchange => exact .inl ⟨old, held, same⟩
      | passed span => exact .inl ⟨old, held, same⟩
      | direct access =>
        have silent := unwritten access (List.mem_cons_self ..)
        rcases Access.origin held with ⟨older, before, equal⟩ | offered
        · exact .inl ⟨older, before, equal.trans same⟩
        · exact absurd offered.writes silent
      | reached caller call within answer =>
        cases call with
        | get name => exact .inl ⟨old, held, same⟩
        | claim name fresh ttl =>
          rcases Access.origin_of_claim held with ⟨older, before, equal⟩ | ⟨rfl, rfl, absent⟩
          · exact .inl ⟨older, before, equal.trans same⟩
          · refine .inr ⟨[], caller, ttl, within, answer, history, by rw [same]; rfl, ?_⟩
            exact Option.map_eq_none_iff.mpr absent
        | delete name =>
          rcases Access.origin held with ⟨older, before, equal⟩ | offered
          · exact .inl ⟨older, before, equal.trans same⟩
          · exact offered.elim
    · exact .inr ⟨event :: front, caller, ttl, within, answer, back, rfl, none⟩

/-- A caller that claims a key issues a token for the subject of that key. -/
theorem Run.issued_of_claim {start : World} {calls : Nat → Call} {history : List Event}
    (run : Run start calls history) {caller : Nat} {key : String} {fresh : Secret} {ttl within : Span}
    {answer : Except AuthError Secret}
    (claimed : .reached caller (.claim key fresh ttl) within answer ∈ history) :
    ∃ subject permissions, (calls caller).request = .issue subject permissions ∧
      key = Secret.key subject := by
  obtain ⟨rest, follows⟩ := run.follows caller
  exact Authority.issued_of_claim follows (mem_exchangesOf_of_mem claimed)

/-- In a history, a token has been issued for a subject while it had no visible secret, with an offer
of this one. -/
def World.Creates (start : World) (calls : Nat → Call) (subject : String) (created : Secret)
    (history : List Event) : Prop :=
  ∃ front issuer permissions ttl within answer back,
    history = front ++
      .reached issuer (.claim (Secret.key subject) created ttl) within answer :: back ∧
    (calls issuer).request = .issue subject permissions ∧
    (start.after front).held (Secret.key subject) = none

namespace Authority

variable {authority : Authority} {start : World} {calls : Nat → Call} {history : List Event}
  {revoker : Nat} {token : String}

/-- A revocation that writes drops a key whose secret it has read before and found to have signed the
token; it asks for nothing else. -/
private theorem revoke_write_path {front back : List Exchange} {exchange : Exchange}
    {rest : Operation (Except AuthError Unit)}
    (follows : (authority.revoke token).run.Follows (front ++ exchange :: back) rest)
    (writes : exchange.query.Writes) :
    ∃ hint secret answer, Token.peek token = .ok hint ∧ Token.Tagged token secret ∧
      front = [authority.look hint.subject (.ok (some secret))] ∧
      exchange = authority.drop hint.subject answer ∧ ∀ later ∈ back, later.query.Quiet := by
  obtain ⟨later, result, yields⟩ := follows.exists_yields
  have loud : ∀ told : List Exchange, (∀ each ∈ told, each.query.Quiet) → exchange ∉ told :=
    fun told quiet member => Query.Quiet.not_writes (quiet exchange member) writes
  rcases revoke_path yields with none | ⟨hint, found, others, peeked, same, ended⟩
  · simp at none
  rcases front with _ | ⟨first, front⟩
  · injection same with first _
    rw [first] at writes
    exact writes.elim
  injection same with first behind
  rcases ended with quiet | ⟨secret, claims, told, answered, decoded, dropped, quiet⟩
  · exact absurd (by rw [← behind]; simp) (loud others quiet)
  subst first answered dropped
  have tagged := (Token.Codec.decodeIgnoringTime_eq_ok_iff.mp decoded).2.1
  rcases front with _ | ⟨second, front⟩
  · injection behind with dropped others
    subst dropped others
    exact ⟨hint, secret, result, peeked, tagged, rfl, rfl, fun each member =>
      quiet each (List.mem_append_left _ member)⟩
  · injection behind with _ others
    exact absurd (by rw [← others]; simp) (loud told quiet)

/-- A revocation that is underway in a history is as far as it has learned answers there. -/
private theorem follows_revoke (run : Run start calls history)
    (called : calls revoker = ⟨authority, .revoke token⟩) :
    ∃ rest, (authority.revoke token).run.Follows (exchangesOf revoker history) rest := by
  have follows := run.follows revoker
  rw [called] at follows
  exact follows

/-- What is removed was under the key of a call that writes. -/
private theorem writes_of_removed {world : World} {call : StoreCall} {within : Span}
    {answer : Except AuthError call.Answer} {name : String} {entry : Entry}
    (found : world.store.entries.find? name = some entry)
    (removed : ((Event.reached revoker call within answer).step world).store.entries.find? name ≠
      some entry) : (Query.store call within).Writes ∧ name = call.key := by
  constructor
  · by_contra silent
    have same : world.use (.ofCall call) = world := World.use_of_silent silent
    apply removed
    show (world.use (.ofCall call)).store.entries.find? name = some entry
    rw [same]
    exact found
  · by_contra different
    exact removed ((Access.find?_after_ofCall_of_ne call different).trans found)

/-- What a revocation removes it has read and found to have signed the token, or it has been created
for the subject since. -/
private theorem removed_of_revoke (run : Run start calls history)
    (honest : ∀ event ∈ history, event.Honest)
    (unwritten : ∀ access, .direct access ∈ history → ¬ access.Writes)
    (called : calls revoker = ⟨authority, .revoke token⟩) {front back : List Event}
    {call : StoreCall} {within : Span} {answer : Except AuthError call.Answer} {name : String}
    {entry : Entry} (made : history = front ++ .reached revoker call within answer :: back)
    (found : (start.after front).store.entries.find? name = some entry)
    (removed : ((Event.reached revoker call within answer).step
      (start.after front)).store.entries.find? name ≠ some entry) :
    ∃ hint secret before wait between, Token.peek token = .ok hint ∧
      name = Secret.key hint.subject ∧
      front = before ++ .reached revoker (.get name) wait (.ok (some secret)) :: between ∧
      (start.after before).held name = some secret ∧ Token.Tagged token secret ∧
      (entry.secret = secret ∨
        (start.after before).Creates calls hint.subject entry.secret between) := by
  obtain ⟨rest, follows⟩ := follows_revoke run called
  obtain ⟨writes, same⟩ := writes_of_removed found removed
  rw [made, exchangesOf_reached] at follows
  obtain ⟨hint, secret, ended, peeked, tagged, asked, dropped, -⟩ :=
    revoke_write_path follows writes
  cases dropped
  obtain rfl : name = Secret.key hint.subject := same
  have looked : authority.look hint.subject (.ok (some secret)) ∈ exchangesOf revoker front := by
    rw [asked]
    exact List.mem_singleton.mpr rfl
  have inside : ∀ event ∈ front, event ∈ history := by
    intro event member
    rw [made]
    exact List.mem_append_left _ member
  obtain ⟨before, between, rfl⟩ :=
    reached_of_answered (fun event member => honest event (inside event member)) looked
  have admits := run.admits
  rw [made] at admits
  have held := World.held_of_answered (World.admits_append_iff.mp admits).1
  refine ⟨hint, secret, before, _, between, peeked, rfl, rfl, held, tagged, ?_⟩
  -- What is dropped was there when the revocation asked, or has been claimed since.
  have since : ∀ access, .direct access ∈ between → ¬ access.Writes :=
    fun access member => unwritten access (inside _ (by simp [member]))
  rw [World.after_append, World.after_cons] at found
  rcases World.origin_of_unwritten since found with ⟨old, kept, same⟩ |
    ⟨early, issuer, ttl, span, told, late, rfl, none⟩
  · obtain ⟨live, seen, rfl⟩ := Option.map_eq_some_iff.mp held
    have there := (Store.live?_eq_some_iff.mp seen).1
    obtain rfl : live = old := Option.some.inj (there.symm.trans kept)
    exact .inl same.symm
  · have claimed : .reached issuer (.claim (Secret.key hint.subject) entry.secret ttl) span told ∈
        history := inside _ (by simp)
    obtain ⟨subject, permissions, issues, named⟩ := run.issued_of_claim claimed
    obtain rfl := Secret.key_injective named
    exact .inr ⟨early, issuer, permissions, ttl, span, told, late, rfl, issues, none⟩

/-- A revocation whose token is not signed with what is visible when it asks writes nothing. -/
private theorem silent_of_strange (run : Run start calls history)
    (called : calls revoker = ⟨authority, .revoke token⟩) {front back : List Event} {name : String}
    {wait : Span} {answer : Except AuthError (Option Secret)}
    (made : history = front ++ .reached revoker (.get name) wait answer :: back)
    (strange : ∀ secret, (start.after front).held name = some secret →
      ¬ Token.Tagged token secret) :
    ∀ exchange ∈ exchangesOf revoker history, ¬ exchange.query.Writes := by
  intro exchange member writes
  obtain ⟨rest, follows⟩ := follows_revoke run called
  obtain ⟨early, late, split⟩ := List.append_of_mem member
  rw [split] at follows
  obtain ⟨hint, secret, ended, -, tagged, rfl, rfl, quiet⟩ := revoke_write_path follows writes
  -- The only call for a secret was answered with one that has signed the token.
  have looked : ⟨.store (.get name) wait, answer⟩ ∈ exchangesOf revoker history :=
    mem_exchangesOf_reached made
  rw [split] at looked
  rcases List.mem_append.mp looked with first | others
  · cases List.mem_singleton.mp first
    have admits := run.admits
    rw [made] at admits
    exact strange secret (World.held_of_answered admits) tagged
  · rcases List.mem_cons.mp others with same | last
    · cases same
    · exact quiet _ last

/-- A revocation removes what its token authenticates, in whatever order the steps of calls come.
Whatever it removes is the secret that was visible when it asked and that has signed the token, or else
one that was created for the subject since. If the token is not signed with what is visible when it
asks, it writes nothing at all. -/
theorem revoke_removes_authenticated (run : Run start calls history)
    (honest : ∀ event ∈ history, event.Honest)
    (unwritten : ∀ access, .direct access ∈ history → ¬ access.Writes)
    (called : calls revoker = ⟨authority, .revoke token⟩) :
    (∀ front call within answer back name entry,
      history = front ++ .reached revoker call within answer :: back →
      (start.after front).store.entries.find? name = some entry →
      ((Event.reached revoker call within answer).step (start.after front)).store.entries.find? name ≠
        some entry →
      ∃ hint secret before wait between, Token.peek token = .ok hint ∧
        name = Secret.key hint.subject ∧
        front = before ++ .reached revoker (.get name) wait (.ok (some secret)) :: between ∧
        (start.after before).held name = some secret ∧ Token.Tagged token secret ∧
        (entry.secret = secret ∨
          (start.after before).Creates calls hint.subject entry.secret between)) ∧
    ∀ front name wait answer back,
      history = front ++ .reached revoker (.get name) wait answer :: back →
      (∀ secret, (start.after front).held name = some secret → ¬ Token.Tagged token secret) →
      ∀ exchange ∈ exchangesOf revoker history, ¬ exchange.query.Writes := by
  constructor
  · intro front call within answer back name entry made found removed
    exact removed_of_revoke run honest unwritten called made found removed
  · intro front name wait answer back made strange
    exact silent_of_strange run called made strange

/-- A secret that has signed nothing. -/
def otherSecret : Secret := ⟨List.replicate 32 8⟩

/-- The sample token is issued, and a revocation of it reads its secret. Before it drops the secret,
the subject is revoked and signs in again with a new one. -/
def sampleOvertaking : List Event := [
  .aside 0 (sample.draw (.ok sampleSecret)),
  .reached 0 (.claim (Secret.key "ann") sampleSecret sample.settings.secretTtlSpan)
    sample.settings.storeTimeoutSpan (.ok sampleSecret),
  .reached 1 (.get (Secret.key "ann")) sample.settings.storeTimeoutSpan (.ok (some sampleSecret)),
  .reached 2 (.delete (Secret.key "ann")) sample.settings.storeTimeoutSpan (.ok ()),
  .aside 3 (sample.draw (.ok otherSecret)),
  .reached 3 (.claim (Secret.key "ann") otherSecret sample.settings.secretTtlSpan)
    sample.settings.storeTimeoutSpan (.ok otherSecret),
  .reached 1 (.delete (Secret.key "ann")) sample.settings.storeTimeoutSpan (.ok ())]

def sampleOvertakers : Nat → Call
  | 1 => ⟨sample, .revoke sampleToken⟩
  | 2 => ⟨sample, .revokeSubject "ann"⟩
  | _ => ⟨sample, .issue "ann" .readAccount⟩

theorem run_sampleOvertaking : Run ⟨0, Store.empty⟩ sampleOvertakers sampleOvertaking where
  admits := ⟨rfl, .inl rfl, .inl rfl, .inl rfl, rfl, .inl rfl, .inl rfl, trivial⟩
  follows
    | 0 => ⟨_, .ask (.ask (.here _))⟩
    | 1 => by
      have decoded : sample.codec.decodeIgnoringTime sampleToken sampleSecret = .ok sampleClaims :=
        Token.Codec.decodeIgnoringTime_eq_ok_iff.mpr ⟨peek_sampleToken,
          Token.Codec.tagged_of_encode encode_sampleClaims, rfl, by decide, by decide⟩
      obtain ⟨event, yields⟩ := yields_revoke peek_sampleToken rfl decoded
      exact Operation.Follows.exists_of_append [_, _] [⟨.report event, ()⟩] yields
    | 2 => ⟨_, .ask (.here _)⟩
    | 3 => ⟨_, .ask (.ask (.here _))⟩
    | _ + 4 => ⟨_, .here _⟩

theorem not_tagged_otherSecret : ¬ Token.Tagged sampleToken otherSecret := by
  intro tagged
  have accepted : sample.codec.decodeIgnoringTime sampleToken otherSecret = .ok sampleClaims :=
    Token.Codec.decodeIgnoringTime_eq_ok_iff.mpr ⟨peek_sampleToken, tagged, rfl, by decide,
      by decide⟩
  have refused : sample.codec.decodeIgnoringTime sampleToken otherSecret = .error .badSignature := by
    decide +kernel
  rw [refused] at accepted
  cases accepted

theorem honest_sampleOvertaking : ∀ event ∈ sampleOvertaking, event.Honest := by
  simp [sampleOvertaking, Event.Honest]

theorem unwritten_sampleOvertaking :
    ∀ access, .direct access ∈ sampleOvertaking → ¬ access.Writes := by
  simp [sampleOvertaking]

/-- The revocation of the sample token ends the new session, whose secret has not signed the token. -/
theorem sampleOvertaking_ends_session :
    Run ⟨0, Store.empty⟩ sampleOvertakers sampleOvertaking ∧
    (∀ event ∈ sampleOvertaking, event.Honest) ∧
    (∀ access, .direct access ∈ sampleOvertaking → ¬ access.Writes) ∧
    sampleOvertakers 1 = ⟨sample, .revoke sampleToken⟩ ∧
    sampleOvertaking = sampleOvertaking.take 6 ++
      [.reached 1 (.delete (Secret.key "ann")) sample.settings.storeTimeoutSpan (.ok ())] ∧
    (World.after ⟨0, Store.empty⟩ (sampleOvertaking.take 6)).held (Secret.key "ann") =
      some otherSecret ∧
    (World.after ⟨0, Store.empty⟩ sampleOvertaking).held (Secret.key "ann") = none ∧
    ¬ Token.Tagged sampleToken otherSecret :=
  ⟨run_sampleOvertaking, honest_sampleOvertaking, unwritten_sampleOvertaking, rfl, rfl, rfl, rfl,
    not_tagged_otherSecret⟩

/-- What the revocation of the sample token removes was created since it asked. -/
theorem removed_in_sampleOvertaking :
    ∃ hint secret before wait between, Token.peek sampleToken = .ok hint ∧
      Secret.key "ann" = Secret.key hint.subject ∧
      sampleOvertaking.take 6 =
        before ++ .reached 1 (.get (Secret.key "ann")) wait (.ok (some secret)) :: between ∧
      (World.after ⟨0, Store.empty⟩ before).held (Secret.key "ann") = some secret ∧
      Token.Tagged sampleToken secret ∧
      (otherSecret = secret ∨ (World.after ⟨0, Store.empty⟩ before).Creates sampleOvertakers
        hint.subject otherSecret between) := by
  have found : (World.after ⟨0, Store.empty⟩
      (sampleOvertaking.take 6)).store.entries.find? (Secret.key "ann") =
      some ⟨otherSecret, sample.settings.secretTtlSpan⟩ := rfl
  have removed : (World.after ⟨0, Store.empty⟩
      sampleOvertaking).store.entries.find? (Secret.key "ann") ≠
      some ⟨otherSecret, sample.settings.secretTtlSpan⟩ := nofun
  exact (revoke_removes_authenticated run_sampleOvertaking honest_sampleOvertaking
    unwritten_sampleOvertaking rfl).1 (sampleOvertaking.take 6) _ _ _ [] _ _ rfl found removed

end Authority
end Signet
