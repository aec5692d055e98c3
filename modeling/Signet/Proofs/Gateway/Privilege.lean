import Signet.Proofs.Authority.Trust
import Signet.Proofs.Deployment.Course
import Signet.Proofs.Gateway.Path
import Signet.Proofs.Permission
import Signet.Proofs.Token.Acceptance

/-! Signing in opens no privileges. What a token permits is settled when it is handed out, by the word
of the verifier and the names that were asked for; whatever happens later, it never permits more. -/

namespace Signet

theorem Json.text_injective {first second : String}
    (same : Print.text first = Print.text second) : first = second := by
  have one : text (Print.text first) = .ok first [] := by
    have reads := reads_text first [] (by intro byte found; cases found)
    rwa [List.append_nil] at reads
  have two : text (Print.text second) = .ok second [] := by
    have reads := reads_text second [] (by intro byte found; cases found)
    rwa [List.append_nil] at reads
  rw [same, two] at one
  cases one
  rfl

namespace Decision

private theorem json_eq (decision : Decision) : ∃ behind, decision.json = ascii '\x7b' ::
    (Json.Print.member "allowed" (Json.Print.boolean decision.allowed) ++ behind) := by
  cases message : decision.message <;> cases token : decision.token
  all_goals
    simp only [json, message, token, jsonMember, Option.map_none, Option.map_some,
      Option.toList_none, Option.toList_some, List.append_nil, List.map_cons, List.map_nil,
      List.cons_append, List.nil_append, Json.Print.object, Json.Print.separated,
      List.append_assoc]
    exact ⟨_, rfl⟩

private theorem json_granting (token : String) : (granting token).json =
    Text.utf8 "\x7b\"allowed\":true,\"token\":" ++
      (Json.Print.text token ++ [ascii '\x7d']) := rfl

/-- The text of a refusal hands out no token. -/
theorem Refuses.json_ne {decision : Decision} (refuses : decision.Refuses) (token : String) :
    decision.json ≠ (granting token).json := by
  intro same
  obtain ⟨_, first⟩ := json_eq decision
  obtain ⟨_, second⟩ := json_eq (granting token)
  rw [first, second, List.cons.injEq, Json.Print.member, Json.Print.member, List.append_assoc,
    List.append_assoc, List.append_cancel_left_eq, refuses.denied] at same
  have letters : some (ascii 'f') = some (ascii 't') := congrArg (List.head? ∘ List.tail) same.2
  exact absurd letters (by decide)

theorem granting_injective {first second : String}
    (same : (granting first).json = (granting second).json) : first = second := by
  rw [json_granting, json_granting, List.append_cancel_left_eq, List.append_cancel_right_eq] at same
  exact Json.text_injective same

end Decision

namespace Authority

variable {authority : Authority} {subject token : String} {permissions required : Permission}
  {exchanges : List Exchange}

/-- A token states the subject and the permissions that it was issued with. -/
theorem peek_of_issue
    (yields : (authority.issue subject permissions).run.Yields exchanges (.ok token)) :
    subject ≠ "" ∧ ∃ claims, Token.peek token = .ok claims ∧ claims.subject = subject ∧
      claims.permissions = permissions := by
  obtain ⟨named, _, _, _, _, _, _, _, _, issued, encoded⟩ := issue_ok_path yields
  obtain rfl := Claims.issue_eq_ok issued
  exact ⟨named, _, Token.Codec.peek_encode encoded named, rfl, rfl⟩

/-- Whatever the store answers, a token permits nothing but what it states. -/
theorem peek_of_verify {allowed : Bool}
    (yields : (authority.verify token required).run.Yields exchanges (.ok allowed)) :
    ∃ claims, Token.peek token = .ok claims ∧ allowed = claims.permissions.hasAll required := by
  obtain ⟨_, _, _, claims, _, _, _, _, decoded, same⟩ := verify_ok_path yields
  obtain ⟨accepted, -⟩ := Token.Codec.decode_eq_ok_iff.mp decoded
  obtain ⟨peeked, -⟩ := Token.Codec.decodeIgnoringTime_eq_ok_iff.mp accepted
  exact ⟨claims, peeked, same⟩

end Authority

namespace Gateway

/-- What is done at a gateway, by its own functions or over the network. -/
inductive Action where
  | signIn (credential : Credential) (names : List String)
  | signOut (headers : List Http.Header)
  | authorize (headers : List Http.Header) (required : Permission)
  | authorizeNames (headers : List Http.Header) (names : List String)
  | handle (request : Http.Request)

abbrev Action.Answer : Action → Type
  | signIn .. | signOut _ | authorize .. | authorizeNames .. => Decision
  | handle _ => Http.Reply

/-- Does what is asked for. -/
def perform (gateway : Gateway) : (action : Action) → Operation action.Answer
  | .signIn credential names => gateway.signIn credential names
  | .signOut headers => gateway.signOut headers
  | .authorize headers required => gateway.authorize headers required
  | .authorizeNames headers names => gateway.authorizeNames headers names
  | .handle request => gateway.handle request

namespace Action

/-- Somebody signs in and asks for the permissions of these names. -/
inductive SignsIn (names : List String) : Action → Prop where
  | direct (credential : Credential) : SignsIn names (signIn credential names)
  | posted {request : Http.Request} {body : Bytes} {credential : Credential}
      (method : request.method = "POST") (path : request.path = "/signin")
      (whole : request.body = some body)
      (read : Json.decode SignIn.read body = .ok ⟨credential, names⟩) :
      SignsIn names (handle request)

/-- A token is presented where these permissions are required. -/
inductive Demands (gateway : Gateway) (token : String) (required : Permission) : Action → Prop where
  | direct {headers : List Http.Header} (presented : gateway.bearerToken headers = some token) :
      Demands gateway token required (authorize headers required)
  | named {headers : List Http.Header} {names : List String}
      (presented : gateway.bearerToken headers = some token)
      (resolved : gateway.table.resolve names true = .ok required) :
      Demands gateway token required (authorizeNames headers names)
  | posted {request : Http.Request} {body : Bytes} {wanted : Authorization}
      (method : request.method = "POST") (path : request.path = "/authorize")
      (whole : request.body = some body) (read : Authorization.ofBody body = .ok wanted)
      (presented : gateway.bearerToken request.headers = some token)
      (resolved : gateway.table.resolve wanted.permissions true = .ok required) :
      Demands gateway token required (handle request)

/-- The answer hands out this token. -/
def Grants (token : String) : (action : Action) → action.Answer → Prop
  | signIn .., decision | signOut _, decision | authorize .., decision
  | authorizeNames .., decision => decision.token = some token
  | handle _, reply => reply.body = (Decision.granting token).json

/-- The answer lets the client through. -/
def Allows : (action : Action) → action.Answer → Prop
  | signIn .., decision | signOut _, decision | authorize .., decision
  | authorizeNames .., decision => decision.allowed = true
  | handle _, reply => reply.status = .ok

end Action

variable {gateway : Gateway} {action : Action} {answer : action.Answer} {names : List String}
  {token : String} {required : Permission} {exchanges : List Exchange}

theorem body_reply_cases (decision : Decision) (cookie : Option String) :
    (reply decision cookie).body = decision.json ∨ (reply decision cookie).body = [] := by
  unfold reply
  dsimp only
  split
  · exact .inl rfl
  · exact .inr rfl

/-- A client that signs in is handed out a token that has been issued with what its names stand for;
privileged names count only if the verifier says so. -/
theorem issue_of_signIn {credential : Credential} {decision : Decision}
    (granted : decision.token = some token)
    (yields : (gateway.signIn credential names).Yields exchanges decision) :
    ∃ credential verification permissions issued,
      exchanges = ⟨.verification credential, .ok verification⟩ :: issued ∧
      gateway.table.resolve names verification.privileged = .ok permissions ∧
      (gateway.authority.issue verification.subject permissions).run.Yields issued (.ok token) := by
  rcases signIn_path yields with evades | ⟨verification, permissions, found, issued, rfl, made, -,
    resolved, yields⟩
  · rw [evades.refuses.empty] at granted
    cases granted
  · obtain rfl : found = token := Option.some.inj granted
    exact ⟨credential, verification, permissions, issued, made, resolved, yields⟩

/-- A reply hands out the token of the decision that it tells. -/
theorem token_of_body {credential : Credential} {decision : Decision} {cookie : Option String}
    (yields : (gateway.signIn credential names).Yields exchanges decision)
    (told : (reply decision cookie).body = (Decision.granting token).json) :
    decision.token = some token := by
  rcases body_reply_cases decision cookie with whole | empty
  · rw [whole] at told
    rcases signIn_path yields with evades | ⟨_, _, found, _, rfl, -⟩
    · exact absurd told (evades.refuses.json_ne token)
    · exact congrArg some (Decision.granting_injective told)
  · rw [empty] at told
    cases told

theorem issue_of_grants (signs : action.SignsIn names) (granted : action.Grants token answer)
    (yields : (gateway.perform action).Yields exchanges answer) :
    ∃ credential verification permissions issued,
      exchanges = ⟨.verification credential, .ok verification⟩ :: issued ∧
      gateway.table.resolve names verification.privileged = .ok permissions ∧
      (gateway.authority.issue verification.subject permissions).run.Yields issued (.ok token) := by
  cases signs with
  | direct credential => exact issue_of_signIn granted yields
  | posted method path whole read =>
    obtain ⟨decision, asked, rfl⟩ := handle_signIn_path method path whole read yields
    exact issue_of_signIn (token_of_body asked granted) asked

/-- Whoever is let through presents a token that the authority accepts for all that is required. -/
theorem verify_of_authorize {headers : List Http.Header} {decision : Decision}
    (presented : gateway.bearerToken headers = some token) (accepts : ¬ decision.Refuses)
    (yields : (gateway.authorize headers required).Yields exchanges decision) :
    (gateway.authority.verify token required).run.Yields exchanges (.ok true) := by
  rcases authorize_path yields with evades | ⟨found, allowed, rfl, seen, yields⟩
  · exact absurd evades.refuses accepts
  · obtain rfl : token = found := Option.some.inj (presented.symm.trans seen)
    cases allowed with
    | false => exact absurd (.deny _ (by decide)) accepts
    | true => exact yields

theorem verify_of_authorizeNames {headers : List Http.Header} {decision : Decision}
    (presented : gateway.bearerToken headers = some token)
    (resolved : gateway.table.resolve names true = .ok required) (accepts : ¬ decision.Refuses)
    (yields : (gateway.authorizeNames headers names).Yields exchanges decision) :
    (gateway.authority.verify token required).run.Yields exchanges (.ok true) := by
  rcases authorizeNames_path yields with evades | ⟨found, seen, yields⟩
  · exact absurd evades.refuses accepts
  · obtain rfl : required = found := Except.ok.inj (resolved.symm.trans seen)
    exact verify_of_authorize presented accepts yields

theorem verify_of_allows (demands : action.Demands gateway token required)
    (allowed : action.Allows answer) (yields : (gateway.perform action).Yields exchanges answer) :
    (gateway.authority.verify token required).run.Yields exchanges (.ok true) := by
  have accepts : ∀ decision : Decision, decision.allowed = true → ¬ decision.Refuses := by
    intro decision allowed refuses
    rw [refuses.denied] at allowed
    cases allowed
  cases demands with
  | direct presented => exact verify_of_authorize presented (accepts answer allowed) yields
  | named presented resolved =>
    exact verify_of_authorizeNames presented resolved (accepts answer allowed) yields
  | posted method path whole read presented resolved =>
    obtain ⟨decision, asked, rfl⟩ := handle_authorize_path method path whole read yields
    have accepts : ¬ decision.Refuses := fun refuses => refuses.status allowed
    exact verify_of_authorizeNames presented resolved accepts asked

/-- Whatever else is done at a gateway, a token that a client without privilege was handed out states
just the bits that its names stand for on the ordinary side, and nobody who presents it is let through
where any other bit is required; the standard privileges are always such bits. -/
theorem signIn_opens_no_privilege {start : Deployment Store} {turns : List (Turn Action)}
    {earlier later : List (Answered Action.Answer)} {occasion : Occasion}
    {verification : Verification}
    (answers : start.answers gateway.perform turns = earlier ++ ⟨action, occasion, answer⟩ :: later)
    (signs : action.SignsIn names) (granted : action.Grants token answer)
    (said : occasion.said = .ok verification) (ordinary : verification.privileged = false) :
    (∃ claims, Token.peek token = .ok claims ∧
      ∀ bit, claims.permissions.Holds bit ↔ gateway.table.Ordinary names bit) ∧
    (∀ each ∈ later, ∀ required, each.request.Demands gateway token required →
      ∀ bit, required.Holds bit → ¬ gateway.table.Ordinary names bit →
        ¬ each.request.Allows each.answer) ∧
    (gateway.table = .standard → ∀ bit,
      (Permission.grantPermission ||| Permission.revokeSession).Holds bit →
        ¬ gateway.table.Ordinary names bit) := by
  have among : ∀ each, each = ⟨action, occasion, answer⟩ ∨ each ∈ later →
      each ∈ start.answers gateway.perform turns := by
    intro each one
    rw [answers]
    exact List.mem_append_right _ (List.mem_cons.mpr one)
  obtain ⟨there, yields⟩ := Deployment.yields_of_mem gateway.perform (among _ (.inl rfl))
  obtain ⟨credential, found, permissions, issued, path, resolved, issues⟩ :=
    issue_of_grants signs granted yields
  have heard : found = verification := by
    have told : Except.ok found = occasion.said := by
      apply Deployment.said_of_mem_path
      rw [path]
      exact List.mem_cons_self ..
    exact Except.ok.inj (told.trans said)
  rw [heard, ordinary] at resolved
  obtain ⟨-, claims, peeked, -, same⟩ := Authority.peek_of_issue issues
  have bits : ∀ bit, claims.permissions.Holds bit ↔ gateway.table.Ordinary names bit := by
    intro bit
    rw [same, Permission.Table.holds_of_resolve resolved]
  refine ⟨⟨claims, peeked, bits⟩, ?_, ?_⟩
  · intro each behind required demands bit holds outside allowed
    obtain ⟨afterwards, yields⟩ := Deployment.yields_of_mem gateway.perform (among each (.inr behind))
    have accepted := verify_of_allows demands allowed yields
    obtain ⟨again, seen, covers⟩ := Authority.peek_of_verify accepted
    obtain rfl : claims = again := Except.ok.inj (peeked.symm.trans seen)
    exact outside ((bits bit).mp (Permission.hasAll_iff.mp covers.symm bit holds))
  · intro standard bit privilege
    rw [standard]
    exact Permission.Table.not_ordinary_of_privilege privilege

/-- A gateway of the standard settings. -/
def sample : Gateway := ⟨Authority.sample, .standard⟩

def sampleVerified (privileged : Bool) : Occasion :=
  { sampleOccasion 7 with said := .ok ⟨"ann", true, privileged⟩ }

def sampleSignIn (name : String) : Action := .signIn ⟨"ann", "open sesame"⟩ [name]

/-- A deployment where a subject has signed in with a privilege. -/
def samplePrivileged : Deployment Store :=
  (Deployment.sampleStart.run (sampleVerified true).facilities
    (sample.perform (sampleSignIn "revoke_session"))).2

/-- What the subject is told that signs in once more, without privilege, and the deployment then. -/
def sampleSession : Decision × Deployment Store :=
  samplePrivileged.run (sampleVerified false).facilities
    (sample.perform (sampleSignIn "read_account"))

def sampleToken : String := sampleSession.1.token.getD ""

def sampleHeaders : List Http.Header := [⟨"authorization", Text.utf8 ("Bearer " ++ sampleToken)⟩]

/-- What the subject can do with privilege, it cannot do with the token of its other session. -/
theorem sampleSession_opens_no_privilege : sampleSession.1.token = some sampleToken ∧
    (∃ claims, Token.peek sampleToken = .ok claims ∧ ∀ bit,
      claims.permissions.Holds bit ↔ Permission.Table.standard.Ordinary ["read_account"] bit) ∧
    ∀ each ∈ sampleSession.2.answers sample.perform
        [.ask (.authorizeNames sampleHeaders ["revoke_session"]) (sampleOccasion 8)],
      ¬ each.request.Allows each.answer := by
  have granted : sampleSession.1.token = some sampleToken := rfl
  have presented : sample.bearerToken sampleHeaders = some sampleToken := by decide +kernel
  have answers : samplePrivileged.answers sample.perform
      [.ask (sampleSignIn "read_account") (sampleVerified false),
        .ask (.authorizeNames sampleHeaders ["revoke_session"]) (sampleOccasion 8)] =
      [] ++ ⟨sampleSignIn "read_account", sampleVerified false, sampleSession.1⟩ ::
        sampleSession.2.answers sample.perform
          [.ask (.authorizeNames sampleHeaders ["revoke_session"]) (sampleOccasion 8)] :=
    Deployment.answers_ask ..
  obtain ⟨stated, refused, privileges⟩ :=
    signIn_opens_no_privilege answers (.direct _) granted rfl rfl
  have demands : Action.Demands sample sampleToken
      (Permission.empty ||| Permission.revokeSession)
      (.authorizeNames sampleHeaders ["revoke_session"]) := .named presented rfl
  have outside : ¬ Permission.Table.standard.Ordinary ["read_account"] 21 :=
    privileges rfl 21 (by decide)
  refine ⟨granted, stated, ?_⟩
  intro each member
  have same := member
  rw [Deployment.answers_ask, Deployment.answers_nil, List.mem_singleton] at same
  subst same
  exact refused _ member _ demands 21 (by decide) outside

end Gateway
end Signet
