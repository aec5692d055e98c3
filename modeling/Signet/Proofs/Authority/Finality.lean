import Signet.Proofs.Authority.Isolation
import Signet.Proofs.Authority.Withdrawal

/-! Expiry is final. Whatever becomes of the store, with whatever secret a token is checked, and
whoever made it, once it has been found to have expired it is never accepted again. -/

namespace Signet

/-- A call to the store that fails has met trouble with the store, or nobody has waited for its end. -/
def Exchange.Candid : Exchange → Prop
  | ⟨.store _ _, .error error⟩ => error.category = .infrastructure
  | _ => True

/-- What fails beside the store fails like the store. -/
def Event.Candid : Event → Prop
  | aside _ exchange => exchange.Candid
  | reached .. | direct _ | passed _ => True

/-- The time that is read in an event. -/
def Event.reading? : Event → Option Timestamp
  | aside _ ⟨.time, moment⟩ => some moment
  | aside .. | reached .. | direct _ | passed _ => none

/-- The times that are read in a history. -/
def readings (history : List Event) : List Timestamp :=
  history.filterMap Event.reading?

theorem mem_readings {caller : Nat} {moment : Timestamp} {history : List Event}
    (read : ⟨.time, moment⟩ ∈ exchangesOf caller history) : moment ∈ readings history := by
  rcases mem_exchangesOf_iff.mp read with member | ⟨call, within, answer, same, member⟩
  · exact List.mem_filterMap.mpr ⟨_, member, rfl⟩
  · cases same

namespace World

theorem candid_answer {world : World} {call : StoreCall} {error : AuthError}
    (failed : world.answer call = .error error) : error.category = .infrastructure := by
  unfold answer at failed
  split at failed
  case h_1 => cases failed
  case h_2 =>
    cases failed
    rfl

theorem Admits.candid {start : World} {history : List Event} {caller : Nat}
    (admits : start.Admits history) (candid : ∀ event ∈ history, event.Candid) :
    ∀ exchange ∈ exchangesOf caller history, exchange.Candid := by
  intro exchange member
  rcases mem_exchangesOf_iff.mp member with alone | ⟨call, within, answer, rfl, made⟩
  · exact candid _ alone
  · obtain ⟨front, back, rfl⟩ := List.append_of_mem made
    obtain ⟨-, fits, -⟩ := admits_append_iff.mp admits
    cases answer with
    | ok value => trivial
    | error error =>
      rcases fits with answered | lost | lost
      · exact candid_answer answered.symm
      · cases lost
        rfl
      · cases lost
        rfl

end World

namespace Deployment

variable {facilities : Facilities Store} {deployment : Deployment Store}

theorem candid_finish {call : StoreCall} {ending : Ending} {error : AuthError}
    (failed : (deployment.finish call ending).1 = .error error) :
    error.category = .infrastructure := by
  have reached : (deployment.reach call).1 = deployment.world.answer call := rfl
  unfold finish at failed
  split at failed
  case h_1 | h_2 | h_3 =>
    cases failed
    rfl
  case h_4 secret =>
    split at failed
    · cases failed
    · rw [reached] at failed
      exact World.candid_answer failed
  case h_5 =>
    rw [reached] at failed
    exact World.candid_answer failed

/-- Calls fail in a deployment as stores fail. -/
theorem candid_answer (query : Query) :
    Exchange.Candid ⟨query, (answer facilities query deployment).1⟩ := by
  cases query with
  | store call within =>
    show Exchange.Candid ⟨.store call within, (deployment.call facilities call within).1⟩
    unfold Deployment.call
    generalize deployment.start facilities call within = started
    obtain ⟨pending, middle⟩ := started
    cases ended : ({ middle with clock := pending.moment }.finish call pending.ending).1 with
    | ok value => trivial
    | error error => exact candid_finish ended
  | fresh length => trivial
  | time => trivial
  | verification credential => trivial
  | report event => trivial

theorem candid_path {α : Type} (operation : Operation α) :
    ∀ exchange ∈ operation.path (answer facilities) deployment, exchange.Candid := by
  intro exchange member
  obtain ⟨later, -, told⟩ := Operation.answered_of_mem_path (fun _ => True)
    (fun _ _ _ => trivial) trivial member
  obtain ⟨query, heard⟩ := exchange
  have told : heard = (answer facilities query later).1 := told
  rw [told]
  exact candid_answer query

end Deployment

namespace Authority

variable {authority : Authority} {token : String} {required wanted : Permission}
  {exchanges later : List Exchange} {moment : Timestamp}

/-- A verification that finds a token expired has read its claims, and the time when they had expired. -/
theorem expired_path (candid : ∀ exchange ∈ exchanges, exchange.Candid)
    (yields : (authority.verify token required).run.Yields exchanges (.error .expired)) :
    ∃ hint moment, Token.peek token = .ok hint ∧ ⟨.time, moment⟩ ∈ exchanges ∧
      authority.codec.checkWindow moment hint = .error .expired := by
  generalize told : Except.error AuthError.expired = result at yields
  cases verify_rests yields with
  | unread unread =>
    cases told
    cases Token.category_of_peek_error unread
  | unanswered peeked failed =>
    cases told
    cases candid _ failed
  | unknown => cases told
  | @judged hint secret moment peeked answered full timed =>
    have expired : authority.codec.decode moment token secret = .error .expired := by
      cases decoded : authority.codec.decode moment token secret with
      | error error =>
        rw [decoded] at told
        rw [Except.error.inj told]
      | ok claims =>
        rw [decoded] at told
        cases told
    exact ⟨hint, moment, peeked, timed, Token.Codec.checkWindow_of_expired peeked expired⟩

/-- A verification that accepts a token has read a time within the window of its claims. -/
theorem accepted_path {allowed : Bool}
    (yields : (authority.verify token required).run.Yields exchanges (.ok allowed)) :
    ∃ hint moment, Token.peek token = .ok hint ∧ ⟨.time, moment⟩ ∈ exchanges ∧
      authority.codec.checkWindow moment hint = .ok () := by
  obtain ⟨-, secret, moment, claims, -, -, -, timed, decoded, -⟩ := verify_ok_path yields
  obtain ⟨signed, window⟩ := Token.Codec.decode_eq_ok_iff.mp decoded
  obtain ⟨peeked, -⟩ := Token.Codec.decodeIgnoringTime_eq_ok_iff.mp signed
  exact ⟨claims, moment, peeked, timed, window⟩

/-- Two verifications of one token, the second of which reads no earlier times: once the first has
found the token expired, the second does not accept it. -/
theorem not_accepted_of_expired (candid : ∀ exchange ∈ exchanges, exchange.Candid)
    (small : ∀ moment, ⟨.time, moment⟩ ∈ exchanges → authority.codec.leeway ≤ moment)
    (order : ∀ moment again, ⟨.time, moment⟩ ∈ exchanges → ⟨.time, again⟩ ∈ later → moment ≤ again)
    (expired : (authority.verify token required).run.Yields exchanges (.error .expired))
    (allowed : Bool) : ¬ (authority.verify token wanted).run.Yields later (.ok allowed) := by
  intro accepted
  obtain ⟨hint, moment, peeked, read, ended⟩ := expired_path candid expired
  obtain ⟨claims, again, same, told, lasts⟩ := accepted_path accepted
  obtain rfl := Except.ok.inj (peeked.symm.trans same)
  have still := Token.Codec.checkWindow_of_later (small _ read) (order _ _ read told) ended
  cases lasts.symm.trans still

/-- Expiry is final. In any history in which the clock of the wall is not set back, whoever else calls
and whatever is done to the store, no verification that is begun after one has found a token expired
accepts that token, whatever it requires. So it is in a deployment, whatever happens to it in between. -/
theorem expired_is_final (authority : Authority) (token : String) (required wanted : Permission)
    (allowed : Bool) :
    (∀ start front back first second, World.Admits start (front ++ back) →
      (∀ event ∈ front ++ back, event.Candid) →
      (∀ moment ∈ readings (front ++ back), authority.codec.leeway ≤ moment) →
      (readings (front ++ back)).Pairwise (· ≤ ·) →
      (authority.verify token required).run.Yields (exchangesOf first front) (.error .expired) →
      exchangesOf second front = [] →
      ¬ (authority.verify token wanted).run.Yields (exchangesOf second (front ++ back))
        (.ok allowed)) ∧
    ∀ (facilities others : Deployment.Facilities Store) (deployment after : Deployment Store)
      (turns : List (Turn Call)),
      deployment.attempt facilities (authority.verify token required) = (.error .expired, after) →
      authority.codec.leeway ≤ deployment.now →
      ((after.after Call.operation turns).wall / 1000).toNat < UInt64.size →
      ((after.after Call.operation turns).attempt others (authority.verify token wanted)).1 ≠
        .ok allowed := by
  constructor
  case left =>
    intro start front back first second admits candid small ordered expired unbegun
    rw [exchangesOf_append, unbegun, List.nil_append]
    have early : ∀ event ∈ front, event.Candid :=
      fun event member => candid event (List.mem_append_left _ member)
    rw [readings, List.filterMap_append, List.pairwise_append] at ordered
    refine not_accepted_of_expired ((World.admits_append_iff.mp admits).1.candid early) ?_ ?_
      expired allowed
    · intro moment read
      apply small
      rw [readings, List.filterMap_append]
      exact List.mem_append_left _ (mem_readings read)
    · intro moment again read told
      exact ordered.2.2 moment (mem_readings read) again (mem_readings told)
  case right =>
    intro facilities others deployment after turns expired small fits accepted
    have yields := Deployment.yields_of_attempt expired
    refine not_accepted_of_expired (Deployment.candid_path _) ?_ ?_ yields allowed
      (Deployment.yields_of_attempt (Prod.ext accepted rfl))
    · intro moment read
      rwa [Deployment.time_of_mem_path read]
    · intro moment again read told
      rw [Deployment.time_of_mem_path read, Deployment.time_of_mem_path told]
      have stood : after.wall = deployment.wall := by
        have ended : (deployment.run facilities (authority.verify token required).run).2 = after :=
          congrArg Prod.snd expired
        rw [← ended, Deployment.wall_run]
      have order : after.wall ≤ (after.after Call.operation turns).wall :=
        Deployment.wall_le_after after turns
      rw [stood] at order
      generalize after.after Call.operation turns = last at *
      have seconds : (deployment.wall / 1000).toNat ≤ (last.wall / 1000).toNat :=
        Int.toNat_le_toNat (Int.ediv_le_ediv (by decide) order)
      rw [Deployment.now, Deployment.now, UInt64.le_iff_toNat_le,
        UInt64.toNat_ofNat_of_lt' (Nat.lt_of_le_of_lt seconds fits), UInt64.toNat_ofNat_of_lt' fits]
      exact seconds

/-- The sample token is found expired at second 5000. -/
def sampleExpired (event : Log.Event) : List Event := [
  .reached 0 (.get (Secret.key "ann")) sample.settings.storeTimeoutSpan (.ok (some sampleSecret)),
  .aside 0 ⟨.time, 5000⟩,
  .aside 0 ⟨.report event, ()⟩]

/-- Its secret is written again, and somebody else looks at it a second later. -/
def sampleRevived : List Event := [
  .direct (.put (Dict.ofList [(Secret.key "ann", sampleSecret)]) sample.settings.secretTtlSpan),
  .reached 1 (.get (Secret.key "ann")) sample.settings.storeTimeoutSpan (.ok (some sampleSecret)),
  .aside 1 ⟨.time, 5001⟩]

theorem readings_sampleRevived (event : Log.Event) :
    readings (sampleExpired event ++ sampleRevived) = [5000, 5001] := rfl

theorem decode_sampleToken_expired :
    sample.codec.decode 5000 sampleToken sampleSecret = .error .expired := by
  rw [Token.Codec.decode_of_ignoringTime
    (Token.Codec.decodeIgnoringTime_encode encode_sampleClaims rfl)]
  rfl

theorem yields_sampleExpired : ∃ event, (sample.verify sampleToken .readAccount).run.Yields
    (exchangesOf 0 (sampleExpired event)) (.error .expired) := by
  have look : (sample.currentSecret "ann").run.Yields
      [sample.look "ann" (.ok (some sampleSecret))] (.ok (some sampleSecret)) := .ask (.here _)
  have accepted : (sample.accept sampleToken sampleClaims sampleSecret).run.Yields
      [⟨.time, 5000⟩] (.error .expired) := by
    refine Attempt.yields_lift_bind_iff.mpr
      ⟨[_], [], 5000, rfl, Operation.yields_query_iff.mpr rfl, ?_⟩
    rw [decode_sampleToken_expired]
    exact .here _
  have rejected : ∃ event, (reject "ann" .expired : Attempt Claims).run.Yields
      [⟨.report event, ()⟩] (.error .expired) := ⟨_, .ask (.here _)⟩
  obtain ⟨event, rejected⟩ := rejected
  refine ⟨event, ?_⟩
  rw [verify, peek_sampleToken, Attempt.ofResult_ok_bind, Attempt.run_bind,
    Operation.yields_bind_iff]
  refine ⟨[_], _, _, rfl, look, ?_⟩
  dsimp only
  rw [Attempt.run_bind, Operation.yields_bind_iff]
  refine ⟨[_, _], [], .error .expired, rfl, ?_, .here _⟩
  rw [rejecting, Attempt.run_tryCatch, Operation.yields_bind_iff]
  exact ⟨[_], [_], _, rfl, accepted, rejected⟩

/-- A day passes before the secret is written again. -/
def sampleRevival : List (Turn Call) := [
  .wait 86400000,
  .use (.put (Dict.ofList [(Secret.key "ann", sampleSecret)]) sample.settings.secretTtlSpan),
  .ask ⟨sample, .issue "ann" .readAccount⟩ (sampleOccasion 8)]

theorem wall_sampleRevival (deployment : Deployment Store) :
    (deployment.after Call.operation sampleRevival).wall = deployment.wall + 86400000 :=
  Deployment.wall_run ..

/-- The secret of the expired sample token comes back, but the token does not. -/
theorem sampleToken_stays_expired :
    (∃ event, World.Admits sampleDeployment.world (sampleExpired event ++ sampleRevived) ∧
      (sample.verify sampleToken .readAccount).run.Yields (exchangesOf 0 (sampleExpired event))
        (.error .expired) ∧
      ∀ allowed, ¬ (sample.verify sampleToken .readAccount).run.Yields
        (exchangesOf 1 (sampleExpired event ++ sampleRevived)) (.ok allowed)) ∧
    ∃ after, sampleAfterExpiry.attempt (sampleOccasion 9).facilities
        (sample.verify sampleToken .readAccount) = (.error .expired, after) ∧
      ∀ allowed, ((after.after Call.operation sampleRevival).attempt (sampleOccasion 9).facilities
        (sample.verify sampleToken .readAccount)).1 ≠ .ok allowed := by
  constructor
  case left =>
    obtain ⟨event, expired⟩ := yields_sampleExpired
    have held : (World.after sampleDeployment.world
        (sampleExpired event ++ sampleRevived.take 1)).held (Secret.key "ann") = some sampleSecret := by
      show (World.use sampleDeployment.world (.put _ _)).held _ = _
      decide +kernel
    have admits : World.Admits sampleDeployment.world (sampleExpired event ++ sampleRevived) := by
      refine ⟨.inl rfl, trivial, trivial, trivial, .inl ?_, trivial, trivial⟩
      exact (congrArg Except.ok held.symm).trans (World.answer_get _ _).symm
    refine ⟨event, admits, expired, fun allowed => ?_⟩
    refine (expired_is_final sample sampleToken .readAccount .readAccount allowed).1 _ _ _ 0 1 admits
      ?_ ?_ ?_ expired rfl
    · simp [sampleExpired, sampleRevived, Event.Candid, Exchange.Candid]
    · rw [readings_sampleRevived]
      exact List.forall_mem_cons.mpr ⟨by decide, List.forall_mem_cons.mpr ⟨by decide, nofun⟩⟩
    · rw [readings_sampleRevived]
      decide
  case right =>
    have found : (sampleAfterExpiry.attempt (sampleOccasion 9).facilities
        (sample.verify sampleToken .readAccount)).1 = .error .expired := by
      have held : sampleAfterExpiry.world.held (Secret.key sampleClaims.subject) =
        some sampleSecret := by decide
      rw [attempt_verify_of_signed rfl rfl held
        (Token.Codec.decodeIgnoringTime_encode encode_sampleClaims rfl)]
      rfl
    obtain ⟨after, expired⟩ : ∃ after, sampleAfterExpiry.attempt (sampleOccasion 9).facilities
        (sample.verify sampleToken .readAccount) = (.error .expired, after) :=
      ⟨_, Prod.ext found rfl⟩
    have stood : after.wall = 5000000 := by
      have ended : (sampleAfterExpiry.run (sampleOccasion 9).facilities
        (sample.verify sampleToken .readAccount).run).2 = after := congrArg Prod.snd expired
      rw [← ended, Deployment.wall_run]
      rfl
    refine ⟨after, expired, fun allowed => ?_⟩
    refine (expired_is_final sample sampleToken .readAccount .readAccount allowed).2 _ _ _ _
      sampleRevival expired (by decide) ?_
    rw [wall_sampleRevival, stood]
    decide

end Authority
end Signet
