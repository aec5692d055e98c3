import Signet.Gateway.Service
import Signet.Proofs.Operation.Path

/-! How the gateway comes to its decisions. A client is let through only on the word of the verifier
or of the authority, and otherwise learns nothing but that it is refused. -/

namespace Signet

namespace Decision

/-- It refuses, and hands out nothing. -/
structure Refuses (decision : Decision) : Prop where
  denied : decision.allowed = false
  status : decision.status ≠ .ok
  empty : decision.token = none

namespace Refuses

theorem deny {status : Http.Status} (message : String) (bad : status ≠ .ok) :
    (Decision.deny status message).Refuses :=
  ⟨rfl, bad, rfl⟩

theorem ofError (error : AuthError) : (Decision.ofError error).Refuses := by
  cases error <;> exact deny _ (by decide)

end Refuses

/-- It tells what a client is told of some error, and nothing else. -/
def Evades (decision : Decision) : Prop := ∃ error, decision = .ofError error

namespace Evades

variable {first second : Decision}

theorem ofError (error : AuthError) : (Decision.ofError error).Evades := ⟨error, rfl⟩

theorem unauthorized : Decision.unauthorized.Evades := ⟨.expired, rfl⟩

theorem refuses (evades : first.Evades) : first.Refuses := by
  obtain ⟨error, rfl⟩ := evades
  exact .ofError error

theorem cases (evades : first.Evades) :
    first = .unauthorized ∨ first = deny .badRequest "unrecognized permission" ∨
      first = deny .unavailable "try again" ∨ first = deny .internalError "sign in failed" := by
  obtain ⟨error, rfl⟩ := evades
  cases error <;> simp [Decision.ofError, AuthError.category]

/-- All that an error shows of itself is a status. -/
theorem eq_of_status (one : first.Evades) (other : second.Evades)
    (same : first.status = second.status) : first = second := by
  rcases one.cases with rfl | rfl | rfl | rfl <;>
    rcases other.cases with rfl | rfl | rfl | rfl <;>
    first | rfl | exact absurd same (by decide)

end Evades

/-- It hands out a token. -/
def granting (token : String) : Decision := { allow none with token := some token }

end Decision

namespace Gateway

variable {gateway : Gateway} {credential : Credential} {names : List String}
  {headers : List Http.Header} {required : Permission} {exchanges : List Exchange}
  {decision : Decision} {request : Http.Request} {reply : Http.Reply}

/-- A decision is told with its status, unless it cannot be told at all. -/
theorem status_reply_cases (decision : Decision) (cookie : Option String) :
    (Gateway.reply decision cookie).status = decision.status ∨
      (Gateway.reply decision cookie).status = .internalError := by
  unfold Gateway.reply
  dsimp only
  split
  · exact .inl rfl
  · exact .inr rfl

theorem grant_path {verification : Verification}
    (yields : (gateway.grant verification names).Yields exchanges decision) : decision.Evades ∨
    ∃ permissions token, decision = .granting token ∧
      gateway.table.resolve names verification.privileged = .ok permissions ∧
      (gateway.authority.issue verification.subject permissions).run.Yields exchanges
        (.ok token) := by
  unfold grant at yields
  cases resolved : gateway.table.resolve names verification.privileged with
  | error error =>
    rw [resolved] at yields
    obtain ⟨-, rfl⟩ := Operation.yields_pure_iff.mp yields
    exact .inl (.ofError error)
  | ok permissions =>
    rw [resolved] at yields
    obtain ⟨front, back, issued, rfl, asked, told⟩ := Operation.yields_bind_iff.mp yields
    cases issued with
    | error error =>
      obtain ⟨-, rfl⟩ := Operation.yields_pure_iff.mp told
      exact .inl (.ofError error)
    | ok token =>
      obtain ⟨rfl, rfl⟩ := Operation.yields_pure_iff.mp told
      rw [List.append_nil]
      exact .inr ⟨permissions, token, rfl, rfl, asked⟩

/-- A client signs in only on the word of the verifier, with what its names stand for. -/
theorem signIn_path (yields : (gateway.signIn credential names).Yields exchanges decision) :
    decision.Evades ∨ ∃ verification permissions token issued, decision = .granting token ∧
      exchanges = ⟨.verification credential, .ok verification⟩ :: issued ∧
      verification.ok = true ∧
      gateway.table.resolve names verification.privileged = .ok permissions ∧
      (gateway.authority.issue verification.subject permissions).run.Yields issued (.ok token) := by
  unfold signIn at yields
  obtain ⟨front, back, said, rfl, asked, later⟩ := Operation.yields_bind_iff.mp yields
  obtain rfl := Operation.yields_query_iff.mp asked
  cases said with
  | error error =>
    obtain ⟨_, _, _, rfl, -, told⟩ := Operation.yields_bind_iff.mp later
    obtain ⟨-, rfl⟩ := Operation.yields_pure_iff.mp told
    exact .inl (.ofError error)
  | ok verification =>
    dsimp only at later
    split at later
    case isTrue known =>
      rcases grant_path later with evades | ⟨permissions, token, rfl, resolved, issued⟩
      · exact .inl evades
      · exact .inr ⟨verification, permissions, token, back, rfl, rfl, known.1, resolved, issued⟩
    case isFalse =>
      obtain ⟨_, _, _, rfl, -, told⟩ := Operation.yields_bind_iff.mp later
      obtain ⟨-, rfl⟩ := Operation.yields_pure_iff.mp told
      exact .inl .unauthorized

/-- A client that is signed out has presented a token, and the authority has revoked it. -/
theorem signOut_path (yields : (gateway.signOut headers).Yields exchanges decision) :
    decision.Evades ∨ ∃ token, decision = .allow (some "signed out") ∧
      gateway.bearerToken headers = some token ∧
      (gateway.authority.revoke token).run.Yields exchanges (.ok ()) := by
  unfold signOut at yields
  cases presented : gateway.bearerToken headers with
  | none =>
    rw [presented] at yields
    obtain ⟨-, rfl⟩ := Operation.yields_pure_iff.mp yields
    exact .inl .unauthorized
  | some token =>
    rw [presented] at yields
    obtain ⟨front, back, revoked, rfl, asked, told⟩ := Operation.yields_bind_iff.mp yields
    cases revoked with
    | error error =>
      obtain ⟨-, rfl⟩ := Operation.yields_pure_iff.mp told
      exact .inl (.ofError error)
    | ok value =>
      obtain ⟨rfl, rfl⟩ := Operation.yields_pure_iff.mp told
      rw [List.append_nil]
      exact .inr ⟨token, rfl, rfl, asked⟩

/-- The decision about a client whose token is to be trusted. -/
def verdict (gateway : Gateway) (required : Permission) (allowed : Bool) : Decision :=
  if allowed then .allow none
  else .deny .forbidden s!"missing permission {gateway.table.describe required}"

/-- What a client is told that is trusted is what the authority says about the token it presents. -/
theorem authorize_path (yields : (gateway.authorize headers required).Yields exchanges decision) :
    decision.Evades ∨ ∃ token allowed, decision = gateway.verdict required allowed ∧
      gateway.bearerToken headers = some token ∧
      (gateway.authority.verify token required).run.Yields exchanges (.ok allowed) := by
  unfold authorize at yields
  cases presented : gateway.bearerToken headers with
  | none =>
    rw [presented] at yields
    obtain ⟨-, rfl⟩ := Operation.yields_pure_iff.mp yields
    exact .inl .unauthorized
  | some token =>
    rw [presented] at yields
    obtain ⟨front, back, answer, rfl, asked, told⟩ := Operation.yields_bind_iff.mp yields
    cases answer with
    | error error =>
      obtain ⟨-, rfl⟩ := Operation.yields_pure_iff.mp told
      exact .inl (.ofError error)
    | ok allowed =>
      have decided : back = [] ∧ gateway.verdict required allowed = decision := by
        cases allowed <;> exact Operation.yields_pure_iff.mp told
      obtain ⟨rfl, rfl⟩ := decided
      rw [List.append_nil]
      exact .inr ⟨token, allowed, rfl, rfl, asked⟩

theorem authorizeNames_path
    (yields : (gateway.authorizeNames headers names).Yields exchanges decision) :
    decision.Evades ∨ ∃ required, gateway.table.resolve names true = .ok required ∧
      (gateway.authorize headers required).Yields exchanges decision := by
  unfold authorizeNames at yields
  cases resolved : gateway.table.resolve names true with
  | error error =>
    rw [resolved] at yields
    obtain ⟨-, rfl⟩ := Operation.yields_pure_iff.mp yields
    exact .inl (.ofError error)
  | ok required =>
    rw [resolved] at yields
    exact .inr ⟨required, rfl, yields⟩

/-- A request to sign in is answered with the decision about what its body asks for. -/
theorem handle_signIn_path {body : Bytes} {wanted : SignIn} (method : request.method = "POST")
    (path : request.path = "/signin") (whole : request.body = some body)
    (read : Json.decode SignIn.read body = .ok wanted)
    (yields : (gateway.handle request).Yields exchanges reply) :
    ∃ decision, (gateway.signIn wanted.credential wanted.permissions).Yields exchanges decision ∧
      reply = Gateway.reply decision (decision.token.map gateway.sessionCookie) := by
  unfold handle at yields
  rw [method, path] at yields
  simp only [handleSignIn, whole, Option.map_some, read] at yields
  obtain ⟨front, back, decision, rfl, asked, told⟩ := Operation.yields_bind_iff.mp yields
  obtain ⟨rfl, rfl⟩ := Operation.yields_pure_iff.mp told
  rw [List.append_nil]
  exact ⟨decision, asked, rfl⟩

theorem handle_authorize_path {body : Bytes} {wanted : Authorization}
    (method : request.method = "POST") (path : request.path = "/authorize")
    (whole : request.body = some body) (read : Authorization.ofBody body = .ok wanted)
    (yields : (gateway.handle request).Yields exchanges reply) :
    ∃ decision, (gateway.authorizeNames request.headers wanted.permissions).Yields exchanges
      decision ∧ reply = Gateway.reply decision none := by
  unfold handle at yields
  rw [method, path] at yields
  simp only [handleAuthorize, whole, Option.map_some, read] at yields
  obtain ⟨front, back, decision, rfl, asked, told⟩ := Operation.yields_bind_iff.mp yields
  obtain ⟨rfl, rfl⟩ := Operation.yields_pure_iff.mp told
  rw [List.append_nil]
  exact ⟨decision, asked, rfl⟩

/-- How a request is answered: not at all, if it cannot be read; else with a decision. -/
inductive Serves (gateway : Gateway) (request : Http.Request) (exchanges : List Exchange) :
    Http.Reply → Prop where
  | unread {status : Http.Status} (bad : status = .badRequest ∨ status = .notFound) :
      Serves gateway request exchanges { status }
  | signIn {wanted : SignIn} {decision : Decision}
      (yields : (gateway.signIn wanted.credential wanted.permissions).Yields exchanges decision) :
      Serves gateway request exchanges
        (Gateway.reply decision (decision.token.map gateway.sessionCookie))
  | signOut {decision : Decision}
      (yields : (gateway.signOut request.headers).Yields exchanges decision) :
      Serves gateway request exchanges
        (Gateway.reply decision (if decision.allowed then some gateway.clearedCookie else none))
  | authorize {body : Bytes} {wanted : Authorization} {decision : Decision}
      (method : request.method = "POST") (path : request.path = "/authorize")
      (whole : request.body = some body) (read : Authorization.ofBody body = .ok wanted)
      (yields : (gateway.authorizeNames request.headers wanted.permissions).Yields exchanges
        decision) : Serves gateway request exchanges (Gateway.reply decision none)

private theorem serves_of_unread {status : Http.Status}
    (bad : status = .badRequest ∨ status = .notFound)
    (yields : (pure { status } : Operation Http.Reply).Yields exchanges reply) :
    gateway.Serves request exchanges reply := by
  obtain ⟨-, rfl⟩ := Operation.yields_pure_iff.mp yields
  exact .unread bad

theorem serves_of_yields (yields : (gateway.handle request).Yields exchanges reply) :
    gateway.Serves request exchanges reply := by
  have served := yields
  unfold handle at served
  split at served
  case h_1 method path =>
    unfold handleSignIn at served
    split at served
    case h_1 wanted read =>
      obtain ⟨body, whole, read⟩ := Option.map_eq_some_iff.mp read
      obtain ⟨decision, asked, rfl⟩ := handle_signIn_path method path whole read yields
      exact .signIn asked
    case h_2 => exact serves_of_unread (.inl rfl) served
  case h_2 method path =>
    obtain ⟨front, back, decision, rfl, asked, told⟩ := Operation.yields_bind_iff.mp served
    obtain ⟨rfl, rfl⟩ := Operation.yields_pure_iff.mp told
    rw [List.append_nil]
    exact .signOut asked
  case h_3 method path =>
    unfold handleAuthorize at served
    split at served
    case h_1 wanted read =>
      obtain ⟨body, whole, read⟩ := Option.map_eq_some_iff.mp read
      obtain ⟨decision, asked, rfl⟩ := handle_authorize_path method path whole read yields
      exact .authorize method path whole read asked
    case h_2 => exact serves_of_unread (.inl rfl) served
  case h_4 => exact serves_of_unread (.inr rfl) served

end Gateway
end Signet
