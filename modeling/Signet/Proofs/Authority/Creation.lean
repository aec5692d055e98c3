import Mathlib.Data.List.Chain
import Signet.Proofs.Authority.Revocation
import Signet.Proofs.Authority.Verdict
import Signet.Proofs.Deployment.Interleaving

/-! Tokens that are issued for one subject side by side. Whatever the store held before and in
whatever order the calls come, the first claim decides which secret they all sign with. -/

namespace Signet

/-- The secret that a claim of a key offers in an event. -/
def Event.claimed? (key : String) : Event → Option Secret
  | reached _ (.claim other fresh _) _ _ => if other = key then some fresh else none
  | aside .. | reached .. | direct _ | passed _ => none

namespace World

/-- The secret that the first claim of a key leaves there: the visible one, or else the one that it
offers. -/
def survivor (key : String) : World → List Event → Option Secret
  | _, [] => none
  | world, event :: history =>
    match event.claimed? key with
    | some fresh => some ((world.held key).getD fresh)
    | none => (event.step world).survivor key history

/-- The moments at which a key is claimed. -/
def claimMoments (key : String) : World → List Event → List Instant
  | _, [] => []
  | world, event :: history =>
    match event.claimed? key with
    | some _ => world.clock :: (event.step world).claimMoments key history
    | none => (event.step world).claimMoments key history

end World

/-- What happens while tokens are issued for one subject: its key is claimed with a secret that is
not empty, for this time; nothing else is written, and the key is not dropped. -/
structure Event.Claiming (key : String) (ttl : Span) (event : Event) : Prop where
  confined : ∀ access, event.access? = some access → access.Confined key
  claims : ∀ caller call within answer, event = .reached caller call within answer →
    ∃ fresh, call = .claim key fresh ttl ∧ fresh.isEmpty = false

variable {start : World} {key : String} {secret : Secret} {ttl : Span} {event : Event}
  {history : List Event} {last : Instant}

theorem Event.claimed?_claim {caller : Nat} {within : Span} {answer : Except AuthError Secret} :
    (reached caller (.claim key secret ttl) within answer).claimed? key = some secret :=
  if_pos rfl

theorem Event.Claiming.spares (claiming : event.Claiming key ttl) : event.Spares key :=
  fun access used => (claiming.confined access used).spares

/-- An event that is no claim of the key reaches the store with no call. -/
theorem Event.Claiming.cases (claiming : event.Claiming key ttl) :
    (∃ caller fresh within answer, event = .reached caller (.claim key fresh ttl) within answer ∧
      fresh.isEmpty = false) ∨
    event.claimed? key = none ∧ ∀ caller call within answer,
      event ≠ .reached caller call within answer := by
  cases event with
  | aside caller exchange => exact .inr ⟨rfl, by simp⟩
  | reached caller call within answer =>
    obtain ⟨fresh, rfl, full⟩ := claiming.claims caller call within answer rfl
    exact .inl ⟨caller, fresh, within, answer, rfl, full⟩
  | direct access => exact .inr ⟨rfl, by simp⟩
  | passed span => exact .inr ⟨rfl, by simp⟩

namespace World

theorem deadline_error_of_le {now later : Instant} {error : StoreError} (order : now ≤ later)
    (failed : Store.deadline now ttl = .error error) :
    ∃ other, Store.deadline later ttl = .error other := by
  cases ranged : Store.deadline later ttl with
  | error other => exact ⟨other, rfl⟩
  | ok moment =>
    obtain ⟨small, -⟩ := Store.deadline_eq_ok_iff.mp ranged
    have smaller : (now + ttl) / Span.second < instantBound :=
      Nat.lt_of_le_of_lt (Nat.div_le_div_right (Nat.add_le_add_right order ttl)) small
    rw [Store.deadline_eq_ok_iff.mpr ⟨smaller, rfl⟩] at failed
    cases failed

/-- Nothing can be claimed for so long a time any more. -/
def Exhausted (world : World) (ttl : Span) : Prop :=
  ∃ error, Store.deadline world.clock ttl = .error error

theorem Exhausted.step (exhausted : start.Exhausted ttl) (event : Event) :
    (event.step start).Exhausted ttl := by
  obtain ⟨error, failed⟩ := exhausted
  exact deadline_error_of_le (event.clock_le_step start) failed

theorem Exhausted.not_claimed {fresh : Secret} {caller : Nat} {within : Span}
    (exhausted : start.Exhausted ttl) :
    ¬ (Event.reached caller (.claim key fresh ttl) within (.ok secret)).Fits start := by
  intro fits
  have answered := fits.answered
  obtain ⟨error, failed⟩ := exhausted
  rcases start.claim_cases key fresh ttl with ⟨_, -, claimed⟩ | ⟨ranged, -⟩
  · rw [claimed] at answered
    cases answered
  · rw [ranged] at failed
    cases failed

/-- A secret has been claimed at a moment and stays for the time of a claim; or nothing can be
claimed any more. -/
def Settled (world : World) (key : String) (secret : Secret) (ttl : Span) (last : Instant) : Prop :=
  world.Keeps key secret (last + ttl) ∨ world.Exhausted ttl

theorem Settled.step (settled : start.Settled key secret ttl last)
    (full : secret.isEmpty = false) (spares : event.Spares key) :
    (event.step start).Settled key secret ttl last := by
  rcases settled with keeps | exhausted
  · exact .inl (keeps.step full spares)
  · exact .inr (exhausted.step event)

/-- A claim settles the secret that was visible, or else the one that it offers. -/
theorem settled_of_claim (start : World) (key : String) (fresh : Secret) (ttl : Span) :
    (start.use (.claim key fresh ttl)).Settled key ((start.held key).getD fresh) ttl
      start.clock := by
  rcases start.claim_cases key fresh ttl with ⟨error, failed, -⟩ | ⟨-, -, keeps⟩
  · exact .inr ⟨error, failed⟩
  · exact .inl keeps

/-- A claim that has been answered was answered with the visible secret, or else with its own. -/
theorem claim_answered {fresh : Secret}
    (answered : start.answer (.claim key fresh ttl) = .ok secret) :
    (start.held key).getD fresh = secret := by
  rcases start.claim_cases key fresh ttl with ⟨error, -, failed⟩ | ⟨-, claimed, -⟩
  · rw [failed] at answered
    cases answered
  · rw [claimed] at answered
    exact Except.ok.inj answered

/-- A claim that comes in time renews what is settled, and is answered with it. -/
theorem Settled.claim {caller : Nat} {fresh : Secret} {within : Span}
    {answer : Except AuthError Secret} (settled : start.Settled key secret ttl last)
    (full : secret.isEmpty = false) (soon : start.clock < last + ttl)
    (fits : (Event.reached caller (.claim key fresh ttl) within answer).Fits start) :
    (start.use (.claim key fresh ttl)).Settled key secret ttl start.clock ∧
      ∀ found, answer = .ok found → found = secret := by
  rcases settled with keeps | exhausted
  · have renewed := start.settled_of_claim key fresh ttl
    have held := keeps.held full soon
    rw [held, Option.getD_some] at renewed
    refine ⟨renewed, ?_⟩
    rintro found rfl
    have same := claim_answered fits.answered
    rw [held, Option.getD_some] at same
    exact same.symm
  · refine ⟨.inr (exhausted.step (.reached caller (.claim key fresh ttl) within answer)), ?_⟩
    rintro found rfl
    exact absurd fits exhausted.not_claimed

/-- Claims that come in time renew what is settled, and all of them are answered with it. -/
theorem Settled.answers (settled : start.Settled key secret ttl last)
    (full : secret.isEmpty = false) (admits : start.Admits history)
    (claiming : ∀ event ∈ history, event.Claiming key ttl)
    (near : List.IsChain (fun first second => second < first + ttl)
      (last :: start.claimMoments key history))
    {caller : Nat} {fresh found : Secret} {within : Span}
    (answered : .reached caller (.claim key fresh ttl) within (.ok found) ∈ history) :
    found = secret := by
  induction history generalizing start last with
  | nil => cases answered
  | cons event history ih =>
    obtain ⟨fits, admits⟩ := admits
    have first := claiming event (List.mem_cons_self ..)
    have others : ∀ event ∈ history, event.Claiming key ttl := by
      intro event member
      exact claiming event (List.mem_cons_of_mem _ member)
    -- What is settled has been claimed at `last`; the next claim comes in time and renews it.
    rcases first.cases with ⟨other, offered, wait, answer, rfl, -⟩ | ⟨unclaimed, unreached⟩
    · simp only [claimMoments, Event.claimed?_claim] at near
      obtain ⟨soon, near⟩ := List.isChain_cons_cons.mp near
      have again := settled.claim full soon fits
      rcases List.mem_cons.mp answered with same | later
      · cases same
        exact again.2 found rfl
      · exact ih again.1 admits others near later
    · simp only [claimMoments, unclaimed] at near
      rcases List.mem_cons.mp answered with same | later
      · exact absurd same.symm (unreached _ _ _ _)
      · exact ih (settled.step full first.spares) admits others near later

/-- All claims of a key that come in time are answered with the survivor of the first. -/
theorem survivor_of_answer (admits : start.Admits history)
    (claiming : ∀ event ∈ history, event.Claiming key ttl)
    (near : List.IsChain (fun first second => second < first + ttl)
      (start.claimMoments key history))
    {caller : Nat} {fresh found : Secret} {within : Span}
    (answered : .reached caller (.claim key fresh ttl) within (.ok found) ∈ history) :
    start.survivor key history = some found := by
  induction history generalizing start with
  | nil => cases answered
  | cons event history ih =>
    obtain ⟨fits, admits⟩ := admits
    have others : ∀ event ∈ history, event.Claiming key ttl := by
      intro event member
      exact claiming event (List.mem_cons_of_mem _ member)
    -- The first claim settles the survivor; before it nothing has been answered yet.
    rcases (claiming event (List.mem_cons_self ..)).cases with
      ⟨other, offered, wait, answer, rfl, offeredFull⟩ | ⟨unclaimed, unreached⟩
    · have full : ((start.held key).getD offered).isEmpty = false := by
        cases held : start.held key with
        | none => exact offeredFull
        | some secret => exact held_full held
      simp only [claimMoments, Event.claimed?_claim] at near
      simp only [survivor, Event.claimed?_claim, Option.some.injEq]
      rcases List.mem_cons.mp answered with same | later
      · cases same
        exact claim_answered fits.answered
      · exact ((start.settled_of_claim key offered ttl).answers full admits others near later).symm
    · simp only [claimMoments, unclaimed] at near
      simp only [survivor, unclaimed]
      rcases List.mem_cons.mp answered with same | later
      · exact absurd same.symm (unreached _ _ _ _)
      · exact ih admits others near later

/-- While tokens are issued for one subject, the store grows by one entry at most. -/
theorem size_after_le (claiming : ∀ event ∈ history, event.Claiming key ttl) :
    (start.after history).store.size ≤ start.store.size + 1 := by
  have others : ((start.after history).store.entries.erase key).size ≤
      (start.store.entries.erase key).size := by
    induction history generalizing start with
    | nil => exact Nat.le_refl _
    | cons event history ih =>
      refine Nat.le_trans (ih fun event member => claiming event (List.mem_cons_of_mem _ member)) ?_
      cases used : event.access? with
      | none => rw [(Event.step_eq_of_unused used).1]
      | some access =>
        rw [Event.step_eq_use used]
        exact ((claiming event (List.mem_cons_self ..)).confined access used).size_erase_le
  have most := (start.after history).store.entries.size_le_size_erase key
  have least := start.store.entries.size_erase_le key
  show (start.after history).store.entries.size ≤ start.store.entries.size + 1
  omega

end World

namespace Authority

variable {authority : Authority} {subject token : String} {stamps : Nat → Option Timestamp}
  {permissions : Nat → Permission}

/-- Calls that issue tokens for one subject, each with permissions and a stamp of its own. -/
def issuing (authority : Authority) (subject : String) (stamps : Nat → Option Timestamp)
    (permissions : Nat → Permission) (caller : Nat) : Call :=
  ⟨{ authority with stamp := stamps caller }, .issue subject (permissions caller)⟩

/-- Tokens that a deployment issues side by side are issued in a run of such calls. -/
theorem run_of_runAll {facilities : Deployment.Facilities Store} {deployment : Deployment Store}
    (fair : facilities.Fair) (genuine : deployment.Genuine) (count : Nat) :
    ∃ history, Run deployment.world (authority.issuing subject stamps permissions) history ∧
      (∀ event ∈ history, event.Honest) ∧ (∀ access, .direct access ∉ history) ∧
      ∀ caller < count, ∀ result, (deployment.runAll facilities
          ((List.range count).map fun caller =>
            ({ authority with stamp := stamps caller }.issue subject
              (permissions caller)).run)).1[caller]? = some result →
        ({ authority with stamp := stamps caller }.issue subject (permissions caller)).run.Yields
          (exchangesOf caller history) result := by
  obtain ⟨history, joint, length, each⟩ := Deployment.joint_runAll fair
    ((List.range count).map fun caller =>
      ({ authority with stamp := stamps caller }.issue subject (permissions caller)).run) genuine
  rw [List.length_map, List.length_range] at joint length
  have found : ∀ caller < count, ((List.range count).map fun caller =>
      ({ authority with stamp := stamps caller }.issue subject
        (permissions caller)).run)[caller]? =
      some ({ authority with stamp := stamps caller }.issue subject (permissions caller)).run := by
    intro caller below
    rw [List.getElem?_map, List.getElem?_range below]
    rfl
  refine ⟨history, ⟨joint.admits, ?_⟩, joint.honest, ?_, ?_⟩
  · intro caller
    by_cases below : caller < count
    · refine ⟨_, each caller _ _ (found caller below) (List.getElem?_eq_getElem ?_)⟩
      rwa [length]
    · rw [joint.exchangesOf_eq_nil (.inr (Nat.le_of_not_lt below))]
      exact ⟨_, .here _⟩
  · intro access member
    obtain ⟨caller, -, -, own⟩ := joint.own _ member
    exact own
  · intro caller below result answered
    exact each caller _ _ (found caller below) answered

/-- Nothing but claims of the subject's key reaches the store, and what they offer is not empty. -/
theorem reached_of_issuing (valid : authority.Valid)
    (run : Run start (authority.issuing subject stamps permissions) history) {caller : Nat}
    {call : StoreCall} {within : Span} {answer : Except AuthError call.Answer}
    (member : .reached caller call within answer ∈ history) :
    ∃ fresh, call = .claim (Secret.key subject) fresh authority.settings.secretTtlSpan ∧
      fresh.isEmpty = false := by
  obtain ⟨rest, follows⟩ := run.follows caller
  have asked := mem_exchangesOf_of_mem member
  rcases issue_asks follows _ asked with quiet | drawn | ⟨fresh, claimed⟩
  · exact quiet.elim
  · cases drawn
  cases claimed
  have drawn := drawn_of_claim follows asked
  exact ⟨fresh, rfl, valid.isEmpty_eq_false (run.admits.length_drawn drawn)⟩

theorem claiming_of_issuing (valid : authority.Valid)
    (run : Run start (authority.issuing subject stamps permissions) history)
    (idle : ∀ access, .direct access ∈ history →
      ¬ access.Writes ∧ access.Spares (Secret.key subject)) :
    ∀ event ∈ history, event.Claiming (Secret.key subject) authority.settings.secretTtlSpan := by
  intro event member
  have claims : ∀ caller call within answer, event = .reached caller call within answer →
      ∃ fresh, call = .claim (Secret.key subject) fresh authority.settings.secretTtlSpan ∧
        fresh.isEmpty = false := by
    rintro caller call within answer rfl
    exact reached_of_issuing valid run member
  refine ⟨?_, claims⟩
  intro access used
  cases event with
  | aside caller exchange => cases used
  | reached caller call within answer =>
    obtain ⟨fresh, rfl, -⟩ := claims caller call within answer rfl
    cases used
    rfl
  | direct access =>
    cases used
    obtain ⟨silent, spares⟩ := idle access member
    exact spares.confined silent
  | passed span => cases used

/-- Of any calls that issue tokens for one subject side by side, however their steps are mixed and
whichever of them fail, those that succeed sign with one secret: the one that was visible when the
first of them claimed, or else the one that this claim offered. The store grows by one entry at
most, and while that secret is visible, each token is accepted inside its window. -/
theorem one_secret_of_issuing (valid : authority.Valid)
    (run : Run start (authority.issuing subject stamps permissions) history)
    (honest : ∀ event ∈ history, event.Honest)
    (idle : ∀ access, .direct access ∈ history →
      ¬ access.Writes ∧ access.Spares (Secret.key subject))
    (near : List.IsChain (fun first second => second < first + authority.settings.secretTtlSpan)
      (start.claimMoments (Secret.key subject) history)) :
    (start.after history).store.size ≤ start.store.size + 1 ∧
    ∀ caller token, ({ authority with stamp := stamps caller }.issue subject
        (permissions caller)).run.Yields (exchangesOf caller history) (.ok token) →
      ∃ secret moment, start.survivor (Secret.key subject) history = some secret ∧
        { authority with stamp := stamps caller }.Stamps (exchangesOf caller history) moment ∧
        authority.codec.encode ⟨subject, permissions caller, moment, moment,
          saturatingAdd moment authority.settings.tokenLifetime, authority.settings.issuer⟩ secret =
          .ok token ∧
        ∀ (facilities : Deployment.Facilities Store) (deployment : Deployment Store)
          (required : Permission), facilities.cancellation = .never →
          deployment.troubles.next (.get (Secret.key subject)) = .pass →
          deployment.world.held (Secret.key subject) = some secret →
          moment ≤ deployment.now + authority.settings.leeway →
          deployment.now - authority.settings.leeway ≤
            saturatingAdd moment authority.settings.tokenLifetime →
          (deployment.attempt facilities (authority.verify token required)).1 =
            .ok ((permissions caller).hasAll required) := by
  have claiming := claiming_of_issuing valid run idle
  refine ⟨World.size_after_le claiming, ?_⟩
  intro caller token issued
  obtain ⟨-, fresh, secret, others, path, -, moment, claims, stamps, made, encoded⟩ :=
    issue_ok_path issued
  obtain rfl := Claims.issue_eq_ok made
  have answered : .reached caller (.claim (Secret.key subject) fresh
      authority.settings.secretTtlSpan) authority.settings.storeTimeoutSpan (.ok secret) ∈
      history := by
    have learned : authority.claim subject fresh (.ok secret) ∈ exchangesOf caller history := by
      rw [path]
      exact List.mem_cons_of_mem _ (List.mem_cons_self ..)
    rcases mem_exchangesOf_iff.mp learned with alone | ⟨call, within, answer, same, member⟩
    · exact (honest _ alone).elim
    · cases same
      exact member
  refine ⟨secret, moment, World.survivor_of_answer run.admits claiming near answered, stamps,
    encoded, ?_⟩
  intro facilities deployment required never calm held started lasts
  have answer : (deployment.attempt facilities (authority.verify token required)).1 = _ :=
    attempt_verify never calm held encoded valid.issuer.symm
  have window : authority.codec.checkWindow deployment.now ⟨subject, permissions caller, moment,
      moment, saturatingAdd moment authority.settings.tokenLifetime, authority.settings.issuer⟩ =
      .ok () := by
    rw [Token.Codec.checkWindow, valid.leeway, if_neg (UInt64.not_lt.mpr lasts),
      if_neg (UInt64.not_lt.mpr started)]
  rw [answer, window]
  rfl

/-- Two callers issue tokens for one subject; who draws first claims last. -/
def sampleRace (first second : Log.Event) : List Event := [
  .aside 0 (sample.draw (.ok ⟨List.replicate 32 8⟩)),
  .aside 1 (sample.draw (.ok sampleSecret)),
  .reached 1 (.claim (Secret.key "ann") sampleSecret sample.settings.secretTtlSpan)
    sample.settings.storeTimeoutSpan (.ok sampleSecret),
  .reached 0 (.claim (Secret.key "ann") ⟨List.replicate 32 8⟩ sample.settings.secretTtlSpan)
    sample.settings.storeTimeoutSpan (.ok sampleSecret),
  .aside 0 ⟨.report first, ()⟩,
  .aside 0 ⟨.report second, ()⟩]

/-- Who claims last signs with the secret of the other. -/
theorem one_secret_of_sampleRace : ∃ first second,
    (sample.issue "ann" .readAccount).run.Yields (exchangesOf 0 (sampleRace first second))
      (.ok sampleToken) ∧
    (World.after ⟨0, Store.empty⟩ (sampleRace first second)).store.size ≤ 1 ∧
    ∃ secret moment, World.survivor (Secret.key "ann") ⟨0, Store.empty⟩
        (sampleRace first second) = some secret ∧
      sample.codec.encode ⟨"ann", .readAccount, moment, moment,
        saturatingAdd moment sample.settings.tokenLifetime, sample.settings.issuer⟩ secret =
        .ok sampleToken := by
  have issued : ∃ first second, (sample.issue "ann" .readAccount).run.Yields
      (exchangesOf 0 (sampleRace first second)) (.ok sampleToken) :=
    yields_issue (by decide) rfl rfl encode_sampleClaims
  obtain ⟨first, second, issued⟩ := issued
  have run : Run ⟨0, Store.empty⟩
      (sample.issuing "ann" (fun _ => some 1000) fun _ => .readAccount)
      (sampleRace first second) := by
    refine ⟨⟨rfl, rfl, .inl rfl, .inl rfl, trivial, trivial, trivial⟩, ?_⟩
    rintro (_ | _ | caller)
    · exact ⟨_, issued⟩
    · exact ⟨_, .ask (.ask (.here _))⟩
    · exact ⟨_, .here _⟩
  have honest : ∀ event ∈ sampleRace first second, event.Honest := by
    simp [sampleRace, Event.Honest]
  have idle : ∀ access, .direct access ∈ sampleRace first second →
      ¬ access.Writes ∧ access.Spares (Secret.key "ann") := by
    simp [sampleRace]
  have near : List.IsChain (fun first second => second < first + sample.settings.secretTtlSpan)
      (World.claimMoments (Secret.key "ann") ⟨0, Store.empty⟩ (sampleRace first second)) :=
    List.isChain_pair.mpr (by decide)
  obtain ⟨small, signed⟩ := one_secret_of_issuing sample_valid run honest idle near
  obtain ⟨secret, moment, survives, -, encoded, -⟩ := signed 0 sampleToken issued
  exact ⟨first, second, issued, small, secret, moment, survives, encoded⟩

end Authority
end Signet
