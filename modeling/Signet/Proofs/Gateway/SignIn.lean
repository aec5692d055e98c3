import Signet.Proofs.Gateway.Privilege

/-! Signing in hands out what the verifier has vouched for, and nothing else. Without its word
nothing is drawn, no store is called, and whoever asks is refused. -/

namespace Signet

/-- Nobody is vouched for who may have what these names stand for. -/
inductive Unvouched (table : Permission.Table) (names : List String) :
    Except AuthError Verification → Prop where
  | failed (error : AuthError) : Unvouched table names (.error error)
  | rejected {verification : Verification} (refused : verification.ok = false) :
      Unvouched table names (.ok verification)
  | unnamed {verification : Verification} (empty : verification.subject = "") :
      Unvouched table names (.ok verification)
  | unresolved {verification : Verification} {name : String} (asked : name ∈ names)
      (unknown : table.find? verification.privileged name = none) :
      Unvouched table names (.ok verification)

namespace Decision

/-- It lets the client through just if its status says so. -/
def Coherent (decision : Decision) : Prop := decision.allowed = true ↔ decision.status = .ok

theorem Refuses.coherent {decision : Decision} (refuses : decision.Refuses) :
    decision.Coherent := by
  constructor
  · intro allowed
    cases refuses.denied.symm.trans allowed
  · intro good
    exact absurd good refuses.status

end Decision

namespace Gateway

variable {gateway : Gateway} {credential : Credential} {names : List String}
  {headers : List Http.Header} {required : Permission} {exchanges : List Exchange}
  {decision : Decision} {said : Except AuthError Verification}

/-- What is done once the verifier has spoken. -/
def admitted (gateway : Gateway) (credential : Credential) (names : List String) :
    Except AuthError Verification → Operation Decision
  | .error error => do
    Operation.report .warn "credential verification failed" [("error", error.message)]
    return Decision.ofError error
  | .ok verification =>
    if verification.ok ∧ verification.subject ≠ "" then gateway.grant verification names
    else do
      Operation.report .info "rejected credential" [("identifier", credential.identifier)]
      return Decision.unauthorized

theorem signIn_eq : gateway.signIn credential names =
    .ask (.verification credential) (gateway.admitted credential names) := by
  rw [signIn]
  show Operation.ask _ _ = _
  congr
  funext said
  cases said <;> rfl

/-- Without the verifier's word, all that is left is to report so, or not, and to refuse. -/
theorem admitted_of_unvouched (credential : Credential)
    (unvouched : Unvouched gateway.table names said) :
    ∃ decision, decision.Refuses ∧ (gateway.admitted credential names said = pure decision ∨
      ∃ event, gateway.admitted credential names said =
        .ask (.report event) fun _ => pure decision) := by
  have denied : ∀ verification, ¬ (verification.ok ∧ verification.subject ≠ "") →
      ∃ event, gateway.admitted credential names (.ok verification) =
        .ask (.report event) fun _ => pure .unauthorized := by
    intro verification unknown
    rw [admitted, if_neg unknown]
    exact ⟨_, rfl⟩
  cases unvouched with
  | failed error => exact ⟨_, .ofError error, .inr ⟨_, rfl⟩⟩
  | rejected refused =>
    refine ⟨_, .deny _ (by decide), .inr (denied _ fun known => ?_)⟩
    rw [refused] at known
    cases known.1
  | unnamed empty => exact ⟨_, .deny _ (by decide), .inr (denied _ fun known => known.2 empty)⟩
  | @unresolved verification name asked unknown =>
    by_cases known : verification.ok ∧ verification.subject ≠ ""
    · cases resolved : gateway.table.resolve names verification.privileged with
      | ok permissions =>
        exact absurd resolved (Permission.Table.resolve_ne_ok asked unknown _)
      | error error =>
        refine ⟨_, .ofError error, .inl ?_⟩
        rw [admitted, if_pos known, grant, resolved]
    · exact ⟨_, .deny _ (by decide), .inr (denied _ known)⟩

section

variable {σ : Type} [SecretStore σ] (facilities : Deployment.Facilities σ)
  (deployment : Deployment σ)

theorem run_signIn_eq : deployment.run facilities (gateway.signIn credential names) =
    { deployment with store := (facilities.verify deployment.store credential).2 }.run facilities
      (gateway.admitted credential names (facilities.verify deployment.store credential).1) := by
  rw [signIn_eq]
  rfl

theorem path_signIn_eq :
    (gateway.signIn credential names).path (Deployment.answer facilities) deployment =
      ⟨.verification credential, (facilities.verify deployment.store credential).1⟩ ::
        (gateway.admitted credential names (facilities.verify deployment.store credential).1).path
          (Deployment.answer facilities)
          { deployment with store := (facilities.verify deployment.store credential).2 } := by
  rw [signIn_eq]
  rfl

/-- Without the verifier's word, the deployment stays as the verifier has left it. -/
theorem run_signIn_of_unvouched (unvouched : Unvouched gateway.table names
    (facilities.verify deployment.store credential).1) : ∃ decision events, decision.Refuses ∧
      deployment.run facilities (gateway.signIn credential names) =
        (decision, { deployment with
          store := (facilities.verify deployment.store credential).2 }.report events) ∧
      (gateway.signIn credential names).path (Deployment.answer facilities) deployment =
        ⟨.verification credential, (facilities.verify deployment.store credential).1⟩ ::
          events.map fun event => ⟨.report event, ()⟩ := by
  rw [run_signIn_eq, path_signIn_eq]
  obtain ⟨decision, refuses, alone | ⟨event, told⟩⟩ := admitted_of_unvouched credential unvouched
  · refine ⟨decision, [], refuses, ?_, ?_⟩
    · rw [alone, Deployment.report, List.append_nil]
      rfl
    · rw [alone]
      rfl
  · refine ⟨decision, [event], refuses, ?_, ?_⟩
    · rw [told]
      rfl
    · rw [told]
      rfl

end

/-- The verifier has vouched for the subject that a token names, and the token permits what these
names stand for. -/
def Vouched (gateway : Gateway) (names : List String) (said : Except AuthError Verification)
    (token : String) : Prop :=
  ∃ verification permissions claims, said = .ok verification ∧ verification.ok = true ∧
    verification.subject ≠ "" ∧
    gateway.table.resolve names verification.privileged = .ok permissions ∧
    Token.peek token = .ok claims ∧ claims.subject = verification.subject ∧
    claims.permissions = permissions

/-- It is neither for random bytes nor for a store. -/
def Idle (query : Query) : Prop :=
  (∀ length, query ≠ .fresh length) ∧ ∀ call within, query ≠ .store call within

theorem idle_verification (credential : Credential) : Idle (.verification credential) :=
  ⟨fun _ => nofun, fun _ _ => nofun⟩

theorem idle_report (event : Log.Event) : Idle (.report event) :=
  ⟨fun _ => nofun, fun _ _ => nofun⟩

/-- A client that signs in either is refused or is handed out a token that is vouched for. -/
theorem signIn_cases
    (yields : (gateway.signIn credential names).Yields
      (⟨.verification credential, said⟩ :: exchanges) decision) :
    decision.Refuses ∨ ∃ token, decision = .granting token ∧ gateway.Vouched names said token := by
  rcases signIn_path yields with evades | ⟨verification, permissions, token, issued, rfl, same,
    known, resolved, issues⟩
  · exact .inl evades.refuses
  · obtain ⟨named, claims, peeked, subject, permitted⟩ := Authority.peek_of_issue issues
    cases same
    exact .inr ⟨token, rfl, verification, permissions, claims, rfl, known, named, resolved, peeked,
      subject, permitted⟩

/-- So a token is handed out just to those who are let through, and it is vouched for. -/
theorem vouched_of_cases {decision : Decision} (outcome : decision.Refuses ∨
    ∃ token, decision = .granting token ∧ gateway.Vouched names said token) :
    (decision.token.isSome = true ↔ decision.allowed = true) ∧ decision.Coherent ∧
      ∀ token, decision.token = some token → gateway.Vouched names said token := by
  rcases outcome with refuses | ⟨granted, rfl, vouched⟩
  · refine ⟨by simp [refuses.empty, refuses.denied], refuses.coherent, fun token handed => ?_⟩
    cases refuses.empty.symm.trans handed
  · refine ⟨iff_of_true rfl rfl, iff_of_true rfl rfl, fun token handed => ?_⟩
    exact Option.some.inj handed ▸ vouched

/-- No other decision hands out a token. -/
def Tokenless (decision : Decision) : Prop := decision.Coherent ∧ decision.token = none

theorem Tokenless.of_evades (evades : decision.Evades) : Tokenless decision :=
  ⟨evades.refuses.coherent, evades.refuses.empty⟩

theorem tokenless_of_signOut (yields : (gateway.signOut headers).Yields exchanges decision) :
    Tokenless decision := by
  rcases signOut_path yields with evades | ⟨token, rfl, -⟩
  · exact .of_evades evades
  · exact ⟨iff_of_true rfl rfl, rfl⟩

theorem tokenless_of_authorize
    (yields : (gateway.authorize headers required).Yields exchanges decision) :
    Tokenless decision := by
  rcases authorize_path yields with evades | ⟨token, allowed, rfl, -⟩
  · exact .of_evades evades
  · cases allowed with
    | false => exact ⟨(Decision.Refuses.deny _ (by decide)).coherent, rfl⟩
    | true => exact ⟨iff_of_true rfl rfl, rfl⟩

theorem tokenless_of_authorizeNames
    (yields : (gateway.authorizeNames headers names).Yields exchanges decision) :
    Tokenless decision := by
  rcases authorizeNames_path yields with evades | ⟨required, -, yields⟩
  · exact .of_evades evades
  · exact tokenless_of_authorize yields

section

variable {σ : Type} [SecretStore σ]

/-- Whoever signs in is handed out a token just if it is let through, and only if the verifier has
vouched for what the token states. If the verifier has not, nothing is drawn, no store is called and
nothing but reports is left behind. No other decision ever hands out a token. -/
theorem signIn_issues_vouched (gateway : Gateway) (facilities : Deployment.Facilities σ)
    (deployment : Deployment σ) :
    (∀ credential names,
      let verified := facilities.verify deployment.store credential
      let ended := deployment.run facilities (gateway.signIn credential names)
      (ended.1.token.isSome = true ↔ ended.1.allowed = true) ∧ ended.1.Coherent ∧
      (∀ token, ended.1.token = some token → gateway.Vouched names verified.1 token) ∧
      (Unvouched gateway.table names verified.1 → ended.1.Refuses ∧
        (∀ exchange ∈ (gateway.signIn credential names).path (Deployment.answer facilities)
          deployment, Idle exchange.query) ∧
        ∃ events, ended.2 = { deployment with store := verified.2 }.report events)) ∧
    (∀ headers, Tokenless (deployment.run facilities (gateway.signOut headers)).1) ∧
    (∀ headers required,
      Tokenless (deployment.run facilities (gateway.authorize headers required)).1) ∧
    (∀ headers names,
      Tokenless (deployment.run facilities (gateway.authorizeNames headers names)).1) := by
  refine ⟨fun credential names => ?_,
    fun headers => tokenless_of_signOut (Operation.yields_path ..),
    fun headers required => tokenless_of_authorize (Operation.yields_path ..),
    fun headers names => tokenless_of_authorizeNames (Operation.yields_path ..)⟩
  intro verified ended
  have yields := (gateway.signIn credential names).yields_path (Deployment.answer facilities)
    deployment
  rw [path_signIn_eq] at yields
  obtain ⟨handed, coherent, vouched⟩ := vouched_of_cases (signIn_cases yields)
  refine ⟨handed, coherent, vouched, fun unvouched => ?_⟩
  obtain ⟨decision, events, refuses, run, path⟩ :=
    run_signIn_of_unvouched facilities deployment unvouched
  have same : ended = (decision, { deployment with store := verified.2 }.report events) := run
  refine ⟨same ▸ refuses, fun exchange member => ?_, events, congrArg Prod.snd same⟩
  rw [path] at member
  rcases List.mem_cons.mp member with rfl | told
  · exact idle_verification credential
  · obtain ⟨event, -, rfl⟩ := List.mem_map.mp told
    exact idle_report event

end

/-- The subject of the sample is vouched for without privilege, and refused if it asks for one. -/
theorem sampleSession_vouched :
    sample.Vouched ["read_account"] (.ok ⟨"ann", true, false⟩) sampleToken ∧
    (samplePrivileged.run (sampleVerified false).facilities
      (sample.signIn ⟨"ann", "open sesame"⟩ ["revoke_session"])).1.Refuses := by
  have issues := (signIn_issues_vouched sample (sampleVerified false).facilities samplePrivileged).1
    ⟨"ann", "open sesame"⟩
  have granted : sampleSession.1.token = some sampleToken := rfl
  have unknown : Permission.Table.standard.find? false "revoke_session" = none := rfl
  refine ⟨(issues ["read_account"]).2.2.1 sampleToken granted, ?_⟩
  exact ((issues ["revoke_session"]).2.2.2 (.unresolved (List.mem_cons_self ..) unknown)).1

end Gateway
end Signet
