import Signet.Proofs.Authority.Wording
import Signet.Proofs.Deployment.Wording
import Signet.Proofs.Gateway.Privilege

/-! Denials tell nothing. All clients that are turned away for want of trust see the same reply, and
so do all that are told to try again; what a failure says about itself never reaches a client. -/

namespace Signet

namespace Decision

theorem ofError_plain (error : AuthError) : ofError error.plain = ofError error := by
  cases error <;> rfl

theorem ofError_congr {first second : AuthError} (same : first.plain = second.plain) :
    ofError first = ofError second := by
  rw [← ofError_plain first, same, ofError_plain]

end Decision

namespace Gateway

open Http (Status)
open Operation (InStep)

variable {gateway : Gateway} {request : Http.Request} {exchanges : List Exchange}
  {reply : Http.Reply}

/-- The statuses of replies that say nothing about the client. -/
def Neutral (status : Status) : Prop :=
  status ∈ [Status.ok, .badRequest, .notFound, .internalError]

theorem neutral_of_ok {decision : Decision} (allowed : decision.status = .ok)
    (cookie : Option String) : Neutral (Gateway.reply decision cookie).status := by
  rcases status_reply_cases decision cookie with kept | lost
  · rw [kept, allowed]
    exact List.mem_cons_self ..
  · rw [lost]
    simp [Neutral]

/-- A reply says nothing about the client, or no more than some error shows of itself, or it forbids
what a token that the authority accepts does not permit. -/
theorem Serves.reply_cases (serves : gateway.Serves request exchanges reply) :
    Neutral reply.status ∨
    (∃ decision : Decision, decision.Evades ∧ reply = Gateway.reply decision none) ∨
    ∃ token required, Action.Demands gateway token required (.handle request) ∧
      reply = Gateway.reply (gateway.verdict required false) none ∧
      (gateway.authority.verify token required).run.Yields exchanges (.ok false) := by
  cases serves with
  | unread bad =>
    refine .inl ?_
    rcases bad with rfl | rfl <;> simp [Neutral]
  | @signIn _ decision yields =>
    rcases signIn_path yields with evades | ⟨_, _, _, _, rfl, -⟩
    · exact .inr (.inl ⟨decision, evades, by rw [evades.refuses.empty, Option.map_none]⟩)
    · exact .inl (neutral_of_ok rfl _)
  | @signOut decision yields =>
    rcases signOut_path yields with evades | ⟨_, rfl, -⟩
    · exact .inr (.inl ⟨decision, evades, by simp [evades.refuses.denied]⟩)
    · exact .inl (neutral_of_ok rfl _)
  | authorize method path whole read yields =>
    rcases authorizeNames_path yields with evades | ⟨required, resolved, yields⟩
    · exact .inr (.inl ⟨_, evades, rfl⟩)
    rcases authorize_path yields with evades | ⟨token, allowed, rfl, presented, verified⟩
    · exact .inr (.inl ⟨_, evades, rfl⟩)
    cases allowed with
    | true => exact .inl (neutral_of_ok rfl _)
    | false =>
      exact .inr (.inr ⟨token, required, .posted method path whole read presented resolved, rfl,
        verified⟩)

/-- A status that belongs to an evasive decision alone is told with that decision alone. -/
theorem Serves.reply_eq {refusal : Decision} (serves : gateway.Serves request exchanges reply)
    (evades : refusal.Evades) (apart : ¬ Neutral refusal.status)
    (same : reply.status = refusal.status) : reply = Gateway.reply refusal none := by
  rcases serves.reply_cases with neutral | ⟨decision, other, rfl⟩ | ⟨_, _, _, rfl, _⟩
  · rw [same] at neutral
    exact absurd neutral apart
  · rcases status_reply_cases decision none with kept | lost
    · rw [other.eq_of_status evades (kept.symm.trans same)]
    · rw [lost] at same
      exact absurd (by simp [Neutral, ← same]) apart
  · have forbidden : refusal.status = .forbidden := same.symm
    rcases evades.cases with rfl | rfl | rfl | rfl <;> exact absurd forbidden (by decide)

/-- That something is forbidden is said only of a token that the authority accepts. -/
theorem Serves.verify_of_forbidden (serves : gateway.Serves request exchanges reply)
    (forbidden : reply.status = .forbidden) : ∃ token required,
      Action.Demands gateway token required (.handle request) ∧
      (gateway.authority.verify token required).run.Yields exchanges (.ok false) := by
  rcases serves.reply_cases with neutral | ⟨decision, evades, rfl⟩ | ⟨token, required, demands, -,
    verified⟩
  · rw [forbidden] at neutral
    exact absurd neutral (by simp [Neutral]; decide)
  · rcases status_reply_cases decision none with kept | lost
    · rw [kept] at forbidden
      rcases evades.cases with rfl | rfl | rfl | rfl <;> exact absurd forbidden (by decide)
    · exact absurd (lost.symm.trans forbidden) (by decide)
  · exact ⟨token, required, demands, verified⟩

/-- A decision that rests on an attempt in step heeds no wording if its error is all it tells. -/
private theorem inStep_told {α : Type} {first second : Attempt α}
    (step : Attempt.InStep first second) {tell : Except AuthError α → Operation Decision}
    (failed : ∀ error, tell (.error error) = pure (Decision.ofError error))
    (others : ∀ value, InStep Eq (tell (.ok value)) (tell (.ok value))) :
    InStep Eq (first.run >>= tell) (second.run >>= tell) := by
  refine Operation.InStep.bind step ?_
  rintro _ _ (value | same)
  · exact others value
  · rw [failed, failed]
    exact .done (Decision.ofError_congr same)

theorem inStep_grant {verification : Verification} {names : List String} :
    InStep Eq (gateway.grant verification names) (gateway.grant verification names) := by
  unfold grant
  split
  · exact .done rfl
  · exact inStep_told Authority.inStep_issue (fun _ => rfl) fun _ => .done rfl

theorem inStep_signIn {credential : Credential} {names : List String} :
    InStep Eq (gateway.signIn credential names) (gateway.signIn credential names) := by
  have rejected : InStep Eq (do
      Operation.report .info "rejected credential" [("identifier", credential.identifier)]
      return Decision.unauthorized) (do
      Operation.report .info "rejected credential" [("identifier", credential.identifier)]
      return Decision.unauthorized) := .report (.done rfl)
  unfold signIn
  refine .ask ?_
  rintro _ _ (verification | same)
  · show InStep Eq (if _ then _ else _) (if _ then _ else _)
    split
    · exact inStep_grant
    · exact rejected
  · exact .report (.done (Decision.ofError_congr same))

theorem inStep_signOut {headers : List Http.Header} :
    InStep Eq (gateway.signOut headers) (gateway.signOut headers) := by
  unfold signOut
  split
  · exact .done rfl
  · exact inStep_told Authority.inStep_revoke (fun _ => rfl) fun _ => .done rfl

theorem inStep_authorize {headers : List Http.Header} {required : Permission} :
    InStep Eq (gateway.authorize headers required) (gateway.authorize headers required) := by
  unfold authorize
  split
  · exact .done rfl
  · refine inStep_told Authority.inStep_verify (fun _ => rfl) fun allowed => ?_
    cases allowed <;> exact .done rfl

theorem inStep_authorizeNames {headers : List Http.Header} {names : List String} :
    InStep Eq (gateway.authorizeNames headers names) (gateway.authorizeNames headers names) := by
  unfold authorizeNames
  split
  · exact inStep_authorize
  · exact .done rfl

/-- No reply depends on the wording of a failure. -/
theorem inStep_handle (request : Http.Request) :
    InStep Eq (gateway.handle request) (gateway.handle request) := by
  have replied : ∀ {operation : Operation Decision} {tell : Decision → Http.Reply},
      InStep Eq operation operation →
      InStep Eq (operation >>= fun decision => pure (tell decision))
        (operation >>= fun decision => pure (tell decision)) := by
    intro operation tell step
    exact step.bind fun decision _ same => same ▸ .done rfl
  unfold handle
  split
  · unfold handleSignIn
    split
    · exact replied inStep_signIn
    · exact .done rfl
  · exact replied inStep_signOut
  · unfold handleAuthorize
    split
    · exact replied inStep_authorizeNames
    · exact .done rfl
  · exact .done rfl

/-- The replies to the requests of a course. -/
def replies (gateway : Gateway) (start : Deployment Store) (turns : List (Turn Http.Request)) :
    List Http.Reply :=
  (start.answers gateway.handle turns).map (·.answer)

theorem serves_of_mem {start : Deployment Store} {turns : List (Turn Http.Request)}
    (member : reply ∈ gateway.replies start turns) :
    ∃ request exchanges, gateway.Serves request exchanges reply := by
  obtain ⟨each, among, rfl⟩ := List.mem_map.mp member
  obtain ⟨_, yields⟩ := Deployment.yields_of_mem gateway.handle among
  exact ⟨each.request, _, serves_of_yields yields⟩

/-- Whatever is asked for and whatever goes wrong, a client that is turned away is told the same as
every other client that is, and that something is forbidden only if the authority accepts its token.
If failures were told in other words, all replies would stay as they are. -/
theorem denials_tell_nothing (gateway : Gateway) (start : Deployment Store)
    (turns : List (Turn Http.Request)) :
    (∀ reply ∈ gateway.replies start turns, reply.status = .unauthorized →
      reply = Gateway.reply .unauthorized none) ∧
    (∀ reply ∈ gateway.replies start turns, reply.status = .unavailable →
      reply = Gateway.reply (.deny .unavailable "try again") none) ∧
    (∀ front request occasion back, turns = front ++ .ask request occasion :: back →
      ((start.after gateway.handle front).run occasion.facilities
        (gateway.handle request)).1.status = .forbidden →
      ∃ token required, Action.Demands gateway token required (.handle request) ∧
        ((start.after gateway.handle front).attempt occasion.facilities
          (gateway.authority.verify token required)).1 = .ok false) ∧
    ∀ other others, start.Reworded other → List.Forall₂ Turn.Reworded turns others →
      gateway.replies start turns = gateway.replies other others := by
  refine ⟨?_, ?_, ?_, ?_⟩
  · intro reply member status
    obtain ⟨_, _, serves⟩ := serves_of_mem member
    exact serves.reply_eq .unauthorized (by simp [Neutral]; decide) status
  · intro reply member status
    obtain ⟨_, _, serves⟩ := serves_of_mem member
    exact serves.reply_eq (.ofError .timeout) (by simp [Neutral]; decide) status
  · intro front request occasion back _ forbidden
    have served := (gateway.handle request).yields_path (Deployment.answer occasion.facilities)
      (start.after gateway.handle front)
    obtain ⟨token, required, demands, verified⟩ :=
      (serves_of_yields served).verify_of_forbidden forbidden
    exact ⟨token, required, demands, Operation.run_of_yields (Operation.given_path ..) verified⟩
  · intro other others reworded same
    exact reworded.answers inStep_handle same

/-- A session whose secret cannot be read at first, for this reason. -/
def sampleOutage (detail : String) : Deployment Store :=
  { sampleSession.2 with troubles := { get := [.failing (.unavailable detail)] } }

/-- Somebody asks whether the client may revoke sessions. -/
def sampleInquiry (headers : List Http.Header) : Turn Http.Request :=
  .ask ⟨"POST", "/authorize", headers, some (Authorization.json ⟨["revoke_session"]⟩)⟩
    (sampleOccasion 7)

/-- A token is presented in vain, then there is none, then it is no token at all; the verifier fails
for the same reason as the store, and the first token is presented once more. -/
def sampleCourse (detail : String) : List (Turn Http.Request) := [
  sampleInquiry sampleHeaders, sampleInquiry [],
  sampleInquiry [⟨"authorization", Text.utf8 "Bearer ann"⟩],
  .ask ⟨"POST", "/signin", [], some (SignIn.json ⟨⟨"ann", "open sesame"⟩, []⟩)⟩
    { sampleOccasion 7 with said := .error (.verifierUnavailable detail) },
  sampleInquiry sampleHeaders]

/-- One failure after the other is told alike, whatever its reason. -/
theorem sampleCourse_tells_nothing :
    (sample.replies (sampleOutage "no route") (sampleCourse "no route")).map (·.status) =
      [.unavailable, .unauthorized, .unauthorized, .unavailable, .forbidden] ∧
    (∀ reply ∈ sample.replies (sampleOutage "no route") (sampleCourse "no route"),
      reply.status = .unauthorized → reply = Gateway.reply .unauthorized none) ∧
    sample.replies (sampleOutage "no route") (sampleCourse "no route") =
      sample.replies (sampleOutage "refused") (sampleCourse "refused") := by
  obtain ⟨refused, -, -, alike⟩ :=
    denials_tell_nothing sample (sampleOutage "no route") (sampleCourse "no route")
  refine ⟨by decide +kernel, refused, alike _ _ ⟨rfl, rfl, rfl, rfl, rfl⟩ ?_⟩
  have same : ∀ headers, Turn.Reworded (sampleInquiry headers) (sampleInquiry headers) :=
    fun headers => .ask _ ⟨fun _ => rfl, .refl _, rfl⟩
  exact .cons (same _) (.cons (same _) (.cons (same _)
    (.cons (.ask _ ⟨fun _ => rfl, .error rfl, rfl⟩) (.cons (same _) .nil))))

end Gateway
end Signet
