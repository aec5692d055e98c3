import Signet.Gateway
import Signet.Gateway.Request

/-! The gateway as a service: requests to its three routes become operations, and decisions become
replies. -/

namespace Signet

namespace Gateway

open Http (Header Reply Request)

/-- The reply that tells a decision, perhaps with a cookie. A cookie that is no legal field leaves
nothing to tell. -/
def reply (decision : Decision) (cookie : Option String) : Reply :=
  let value := cookie.map Text.utf8
  if (value.getD []).all Header.isLegal then
    { status := decision.status
      headers := ⟨"content-type", Text.utf8 "application/json"⟩ ::
        (value.map fun text => Header.mk "set-cookie" text).toList
      body := decision.json }
  else { status := .internalError }

/-- Answers a request to sign in. -/
def handleSignIn (gateway : Gateway) (request : Request) : Operation Reply := do
  match request.body.map (Json.decode SignIn.read) with
  | some (.ok wanted) =>
    let decision ← gateway.signIn wanted.credential wanted.permissions
    return reply decision (decision.token.map gateway.sessionCookie)
  | _ => return { status := .badRequest }

/-- Answers a request to sign out, whatever its body. -/
def handleSignOut (gateway : Gateway) (request : Request) : Operation Reply := do
  let decision ← gateway.signOut request.headers
  return reply decision (if decision.allowed then some gateway.clearedCookie else none)

/-- Answers a request to check permissions. -/
def handleAuthorize (gateway : Gateway) (request : Request) : Operation Reply := do
  match request.body.map Authorization.ofBody with
  | some (.ok wanted) =>
    return reply (← gateway.authorizeNames request.headers wanted.permissions) none
  | _ => return { status := .badRequest }

/-- Answers a request. -/
def handle (gateway : Gateway) (request : Request) : Operation Reply :=
  match request.method, request.path with
  | "POST", "/signin" => gateway.handleSignIn request
  | "POST", "/signout" => gateway.handleSignOut request
  | "POST", "/authorize" => gateway.handleAuthorize request
  | _, _ => return { status := .notFound }

end Gateway
end Signet
