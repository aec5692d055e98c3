import Signet.Proofs.Authority.Isolation

/-! Failures are atomic. A request changes the store with one call at most, and succeeds whenever that
call does; so what fails has changed nothing, unless nobody has heard how its one call ended. -/

namespace Signet

theorem Query.Quiet.not_writes {query : Query} (quiet : query.Quiet) : ¬ query.Writes := by
  cases query with
  | store call within => exact quiet.elim
  | fresh length => exact not_false
  | time => exact not_false
  | verification credential => exact not_false
  | report event => exact not_false

theorem Exchange.silent_of_quiet {exchanges : List Exchange}
    (quiet : ∀ exchange ∈ exchanges, exchange.query.Quiet) :
    ∀ exchange ∈ exchanges, ¬ exchange.query.Writes :=
  fun exchange member => (quiet exchange member).not_writes

namespace Authority

open Exchange (silent_of_quiet)

variable {authority : Authority} {request : Request} {exchanges : List Exchange}
  {subject token : String} {permissions required : Permission}

/-- The call by which a request changes the store, where these exchanges have come before. -/
inductive Wishes (authority : Authority) (exchanges : List Exchange) : Request → StoreCall → Prop where
  | issue {subject : String} {permissions : Permission} {fresh : Secret}
      (drawn : authority.draw (.ok fresh) ∈ exchanges) :
      Wishes authority exchanges (.issue subject permissions)
        (.claim (Secret.key subject) fresh authority.settings.secretTtlSpan)
  | revoke {token : String} {hint : Claims} (peeked : Token.peek token = .ok hint) :
      Wishes authority exchanges (.revoke token) (.delete (Secret.key hint.subject))
  | revokeSubject {subject : String} :
      Wishes authority exchanges (.revokeSubject subject) (.delete (Secret.key subject))

/-- A request either changes nothing, or makes one call that may; it succeeds if that call does, and
tells if the wait for it has been given up. -/
inductive Settles (authority : Authority) (request : Request) :
    List Exchange → Except AuthError request.Answer → Prop where
  | idle {exchanges : List Exchange} {result : Except AuthError request.Answer}
      (silent : ∀ exchange ∈ exchanges, ¬ exchange.query.Writes) :
      Settles authority request exchanges result
  | wrote {front back : List Exchange} {call : StoreCall} {within : Span}
      {answer : Except AuthError call.Answer} {result : Except AuthError request.Answer}
      (before : ∀ exchange ∈ front, ¬ exchange.query.Writes)
      (behind : ∀ exchange ∈ back, ¬ exchange.query.Writes)
      (wishes : authority.Wishes front request call)
      (succeeds : ∀ value, answer = .ok value → ∃ value, result = .ok value)
      (gives : ∀ error, error = .timeout ∨ error = .cancelled → answer = .error error →
        result = .error error) :
      Settles authority request (front ++ ⟨.store call within, answer⟩ :: back) result

/-- A token for a named subject is signed, whatever the time is. -/
theorem sign_total {secret : Secret} {result : Except AuthError String} (named : subject ≠ "")
    (yields : (authority.sign subject permissions secret).run.Yields exchanges result) :
    ∃ token, result = .ok token := by
  unfold sign at yields
  obtain ⟨_, _, moment, rfl, -, made⟩ := Attempt.yields_lift_bind_iff.mp yields
  rw [Claims.issue_of_named named, Attempt.ofResult_ok_bind,
    Token.Codec.encode_eq_ok_iff.mpr ⟨Claims.check_of_named named, rfl⟩,
    Attempt.ofResult_ok_bind] at made
  obtain ⟨_, _, _, rfl, -, last⟩ := Attempt.yields_lift_bind_iff.mp made
  obtain ⟨-, rfl⟩ := Operation.yields_pure_iff.mp last
  exact ⟨_, rfl⟩

private theorem issue_settles {result : Except AuthError String}
    (yields : (authority.issue subject permissions).run.Yields exchanges result) :
    authority.Settles (.issue subject permissions) exchanges result := by
  rcases issue_path yields with ⟨rfl, -⟩ | ⟨reason, others, rfl, quiet, -⟩ |
    ⟨named, fresh, answer, others, rfl, quiet, failed, signed⟩
  · exact .idle (by simp)
  · apply Settles.idle
    intro exchange member
    rcases List.mem_cons.mp member with rfl | later
    · exact not_false
    · exact silent_of_quiet quiet exchange later
  · have drawn : ∀ exchange ∈ [authority.draw (.ok fresh)], ¬ exchange.query.Writes := by
      intro exchange member
      obtain rfl := List.mem_singleton.mp member
      exact not_false
    refine Settles.wrote drawn (silent_of_quiet quiet) (.issue (List.mem_singleton.mpr rfl)) ?_ ?_
    · intro secret same
      obtain ⟨told, signing, -, signs⟩ := signed secret same
      exact sign_total named signs
    · rintro error (rfl | rfl) same
      · exact failed _ same
      · exact failed _ same

private theorem revokeSubject_settles {result : Except AuthError Unit}
    (yields : (authority.revokeSubject subject).run.Yields exchanges result) :
    authority.Settles (.revokeSubject subject) exchanges result := by
  obtain ⟨others, rfl, quiet⟩ := revokeSubject_path yields
  have none : ∀ exchange ∈ ([] : List Exchange), ¬ exchange.query.Writes := by simp
  exact .wrote none (silent_of_quiet quiet) .revokeSubject (fun value same => ⟨value, same⟩)
    fun error _ same => same

/-- A token whose subject has a secret that has signed it is revoked; else nothing is to be done. -/
private theorem revoke_settles {result : Except AuthError Unit}
    (yields : (authority.revoke token).run.Yields exchanges result) :
    authority.Settles (.revoke token) exchanges result := by
  rcases revoke_path yields with rfl | ⟨hint, answer, others, peeked, rfl, ended⟩
  · exact .idle (by simp)
  have looks : ∀ exchange ∈ [authority.look hint.subject answer], ¬ exchange.query.Writes := by
    intro exchange member
    obtain rfl := List.mem_singleton.mp member
    exact not_false
  rcases ended with quiet | ⟨secret, claims, told, -, -, rfl, quiet⟩
  · exact .idle (List.forall_mem_append.mpr ⟨looks, silent_of_quiet quiet⟩)
  · exact .wrote looks (silent_of_quiet quiet) (.revoke peeked) (fun value same => ⟨value, same⟩)
      fun error _ same => same

theorem verify_silent : (authority.verify token required).run.Only (¬ ·.Writes) :=
  verify_only (fun _ quiet => quiet.not_writes) fun _ _ => not_false

theorem perform_settles {result : Except AuthError request.Answer}
    (yields : (authority.perform request).run.Yields exchanges result) :
    authority.Settles request exchanges result := by
  cases request with
  | issue subject permissions => exact issue_settles yields
  | verify token required => exact .idle (verify_silent.of_mem yields)
  | revoke token => exact revoke_settles yields
  | revokeSubject subject => exact revokeSubject_settles yields

/-- What a store holds if the one call of a request has been completed at this moment: a secret that
has been drawn, or the visible one for longer, or no longer any secret. -/
inductive Completes (authority : Authority) (exchanges : List Exchange) (held : Store)
    (now : Instant) : Request → Store → Prop where
  | created {subject : String} {permissions : Permission} {fresh : Secret}
      (drawn : authority.draw (.ok fresh) ∈ exchanges)
      (absent : held.live? now (Secret.key subject) = none) :
      Completes authority exchanges held now (.issue subject permissions)
        ⟨held.entries.insert (Secret.key subject)
          ⟨fresh, now + authority.settings.secretTtlSpan⟩⟩
  | extended {subject : String} {permissions : Permission} {entry : Entry}
      (live : held.live? now (Secret.key subject) = some entry) :
      Completes authority exchanges held now (.issue subject permissions)
        ⟨held.entries.insert (Secret.key subject)
          ⟨entry.secret, max entry.deadline (now + authority.settings.secretTtlSpan)⟩⟩
  | revoked {token : String} {hint : Claims} (peeked : Token.peek token = .ok hint) :
      Completes authority exchanges held now (.revoke token)
        ⟨held.entries.erase (Secret.key hint.subject)⟩
  | revokedSubject {subject : String} :
      Completes authority exchanges held now (.revokeSubject subject)
        ⟨held.entries.erase (Secret.key subject)⟩

theorem Wishes.completes {call : StoreCall} {world : World} {value : call.Answer}
    (wishes : authority.Wishes exchanges request call) (answered : world.answer call = .ok value) :
    authority.Completes exchanges world.store world.clock request
      (world.use (.ofCall call)).store := by
  cases wishes with
  | @issue subject permissions fresh drawn =>
    rcases world.claim_cases (Secret.key subject) fresh authority.settings.secretTtlSpan with
      ⟨error, -, refused⟩ | ⟨ranged, -, -⟩
    · rw [refused] at answered
      cases answered
    · show Completes _ _ _ _ _ ((Access.claim _ _ _).after world.clock world.store)
      rw [Access.after_claim ranged]
      cases live : world.store.live? world.clock (Secret.key subject) with
      | none => exact .created drawn live
      | some entry => exact .extended live
  | revoke peeked => exact .revoked peeked
  | revokeSubject => exact .revokedSubject

/-- Nothing is left under another key than before. -/
theorem Completes.find? {held after : Store} {now : Instant} {key : String}
    (completes : authority.Completes exchanges held now request after)
    (apart : ∀ subject, request.subject? = some subject → key ≠ Secret.key subject) :
    after.entries.find? key = held.entries.find? key := by
  cases completes with
  | created drawn absent => exact Dict.find?_insert_of_ne _ _ (apart _ rfl)
  | extended live => exact Dict.find?_insert_of_ne _ _ (apart _ rfl)
  | revoked peeked =>
    apply Dict.find?_erase_of_ne
    apply apart
    simp [Request.subject?, peeked, Except.toOption]
  | revokedSubject => exact Dict.find?_erase_of_ne _ (apart _ rfl)

/-- A request that ends like this has changed all that it would, or nothing. -/
structure Atomic (authority : Authority) (request : Request) (exchanges : List Exchange)
    (before after : World) (result : Except AuthError request.Answer) : Prop where
  whole : after.store = before.store ∨ ∃ moment, before.clock ≤ moment ∧ moment ≤ after.clock ∧
    authority.Completes exchanges before.store moment request after.store
  /-- A verification never changes anything. -/
  reads : ∀ token required, request = .verify token required → after.store = before.store
  /-- If somebody has heard how the call ended, a failure has changed nothing. -/
  fails : ∀ error, result = .error error → error ≠ .timeout → error ≠ .cancelled →
    after.store = before.store
  /-- Nothing has changed for others. -/
  apart : ∀ key, (∀ subject, request.subject? = some subject → key ≠ Secret.key subject) →
    after.store.entries.find? key = before.store.entries.find? key
  /-- While a token is issued, no secret that is visible is replaced or ends sooner. -/
  keeps : ∀ subject permissions, request = .issue subject permissions → ∀ key secret deadline,
    secret.isEmpty = false → before.Keeps key secret deadline → after.Keeps key secret deadline

theorem Wishes.mono {others : List Exchange} {call : StoreCall}
    (wishes : authority.Wishes exchanges request call)
    (among : ∀ exchange ∈ exchanges, exchange ∈ others) :
    authority.Wishes others request call := by
  cases wishes with
  | issue drawn => exact .issue (among _ drawn)
  | revoke peeked => exact .revoke peeked
  | revokeSubject => exact .revokeSubject

/-- While a token is issued, nothing is written that is not claimed. -/
theorem issue_spares (key : String) : (authority.issue subject permissions).run.Only
    fun query => ∀ access, query.access? = some access → access.Spares key := by
  apply issue_only
  · intro query quiet access used
    cases query with
    | store call within => exact quiet.elim
    | fresh length => cases used
    | time => cases used
    | verification credential => cases used
    | report event => cases used
  · intro access used
    cases used
  · intro fresh access used
    cases used
    trivial

section

variable {caller : Nat} {start : World} {history : List Event}
  {result : Except AuthError request.Answer}

/-- Where a request has changed the store, its call has been completed; and if it has failed, nobody
has heard of that. -/
theorem completes_of_yields (admits : start.Admits history)
    (own : ∀ event ∈ history, event.Own caller)
    (yields : (authority.perform request).run.Yields (exchangesOf caller history) result) :
    (start.after history).store = start.store ∨
      (∃ moment, start.clock ≤ moment ∧ moment ≤ (start.after history).clock ∧
        authority.Completes (exchangesOf caller history) start.store moment request
          (start.after history).store) ∧
      ∀ error, result = .error error → error = .timeout ∨ error = .cancelled := by
  have settles := perform_settles yields
  generalize learned : exchangesOf caller history = exchanges at settles
  cases settles with
  | idle silent => exact .inl (World.store_after_of_silent own (learned ▸ silent))
  | @wrote front back call within answer _ before behind wishes succeeds gives =>
    rcases World.store_after_of_wrote admits own learned before behind with
      same | ⟨moment, early, late, made, fits⟩
    · exact .inl same
    cases answered : World.answer ⟨moment, start.store⟩ call with
    | error error =>
      rw [World.use_of_error answered] at made
      exact .inl made
    | ok value =>
      refine .inr ⟨⟨moment, early, late, ?_⟩, ?_⟩
      · have among : ∀ exchange ∈ front, exchange ∈ front ++ ⟨.store call within, answer⟩ :: back :=
          fun exchange member => List.mem_append_left _ member
        rw [made]
        exact (wishes.mono among).completes answered
      · intro error failed
        have lost : answer = .error .timeout ∨ answer = .error .cancelled := by
          rcases fits with heard | lost
          · obtain ⟨value, done⟩ := succeeds value (heard.trans answered)
            cases failed.symm.trans done
          · exact lost
        rcases lost with late | cancelled
        · have told := gives _ (.inl rfl) late
          exact .inl (Except.error.inj (failed.symm.trans told))
        · have told := gives _ (.inr rfl) cancelled
          exact .inr (Except.error.inj (failed.symm.trans told))

/-- Who asks for nothing that does not spare a key takes part in no such event. -/
theorem spares_of_own {key : String} (own : ∀ event ∈ history, event.Own caller)
    (spares : ∀ exchange ∈ exchangesOf caller history,
      ∀ access, exchange.query.access? = some access → access.Spares key) :
    ∀ event ∈ history, event.Spares key := by
  intro event member access used
  have mine := own event member
  cases event with
  | aside other exchange => cases used
  | reached other call within answer =>
    obtain rfl : other = caller := mine
    exact spares _ (mem_exchangesOf_of_mem member) access used
  | direct access => exact mine.elim
  | passed span => cases used

/-- Whatever a caller has heard, and whenever, what it has asked for is whole. -/
theorem atomic_of_yields (admits : start.Admits history)
    (own : ∀ event ∈ history, event.Own caller)
    (yields : (authority.perform request).run.Yields (exchangesOf caller history) result) :
    authority.Atomic request (exchangesOf caller history) start (start.after history) result := by
  have changes := completes_of_yields admits own yields
  constructor
  case whole => exact changes.imp_right And.left
  case reads =>
    rintro token required rfl
    rcases changes with same | ⟨⟨moment, -, -, completes⟩, -⟩
    · exact same
    · cases completes
  case fails =>
    intro error failed timely running
    rcases changes with same | ⟨-, lost⟩
    · exact same
    · rcases lost error failed with late | cancelled
      · exact absurd late timely
      · exact absurd cancelled running
  case apart =>
    intro key others
    rcases changes with same | ⟨⟨moment, -, -, completes⟩, -⟩
    · rw [same]
    · exact completes.find? others
  case keeps =>
    rintro subject permissions rfl key secret deadline full keeps
    exact keeps.after full (spares_of_own own ((issue_spares key).of_mem yields))

end

/-- Who succeeds has made a call that has succeeded. -/
theorem succeeds_of_ok {value : request.Answer}
    (yields : (authority.perform request).run.Yields exchanges (.ok value)) :
    ∃ exchange ∈ exchanges, exchange.Succeeds := by
  cases request with
  | issue subject permissions =>
    obtain ⟨-, fresh, secret, others, rfl, -⟩ := issue_ok_path yields
    exact ⟨_, List.mem_cons_of_mem _ (List.mem_cons_self ..), trivial⟩
  | verify token required =>
    obtain ⟨_, secret, _, _, _, answered, _⟩ := verify_ok_path yields
    exact ⟨_, answered, trivial⟩
  | revoke token =>
    obtain ⟨_, _, hint, rfl, read, asked⟩ := Attempt.yields_bind_iff.mp yields
    obtain ⟨_, _, found, rfl, looked, _⟩ := Attempt.yields_bind_iff.mp asked
    obtain ⟨_, _, found, rfl, called, _⟩ := Attempt.yields_bind_iff.mp looked
    obtain rfl := Attempt.yields_store_iff.mp called
    exact ⟨authority.look hint.subject (.ok found), by simp, trivial⟩
  | revokeSubject subject =>
    obtain ⟨others, rfl, -⟩ := revokeSubject_path yields
    exact ⟨_, List.mem_cons_self .., trivial⟩

/-- A call that a deployment gives up never reaches the store, so that every failure leaves it alone. -/
theorem store_of_failed {facilities : Deployment.Facilities Store}
    {deployment after : Deployment Store} {error : AuthError}
    (failed : deployment.attempt facilities (authority.perform request) = (.error error, after)) :
    after.store = deployment.store := by
  have settles := perform_settles (Deployment.yields_of_attempt failed)
  have ended : (deployment.run facilities (authority.perform request).run).2 = after :=
    congrArg Prod.snd failed
  rw [← ended]
  apply Deployment.store_run (perform_apart ..)
  generalize (authority.perform request).run.path (Deployment.answer facilities) deployment =
    exchanges at settles
  generalize told : Except.error error = result at settles
  cases settles with
  | idle silent => exact fun exchange member writes => absurd writes (silent exchange member)
  | @wrote front back call within answer _ before behind wishes succeeds gives =>
    intro exchange member writes
    rcases List.mem_append.mp member with early | later
    · exact absurd writes (before exchange early)
    rcases List.mem_cons.mp later with rfl | late
    · cases answer with
      | error error => exact not_false
      | ok value =>
        obtain ⟨value, done⟩ := succeeds value rfl
        cases told.trans done
    · exact absurd writes (behind exchange late)

/-- A claim that has reached the store, which nobody has heard of. -/
def sampleLoss : List Event := [
  .aside 0 (sample.draw (.ok sampleSecret)),
  .reached 0 (.claim (Secret.key "ann") sampleSecret sample.settings.secretTtlSpan)
    sample.settings.storeTimeoutSpan (.error .timeout)]

end Authority
end Signet
