import Signet.Proofs.Authority.Expiry
import Signet.Proofs.Authority.Withdrawal
import Signet.Proofs.Gateway.Privilege
import Signet.Proofs.Gateway.Wire

/-! A session from one end to the other. Whoever signs in is handed a token, in the body and in the
cookie, that opens just what its names stand for, however it is presented, until the client signs out. -/

namespace Signet

namespace Gateway

open Http (Header)

variable {gateway : Gateway} {token : String} {names : List String} {request : Http.Request}
  {facilities : Deployment.Facilities Store} {deployment : Deployment Store}

/-- A request to sign in with this credential and these names. -/
structure SignsIn (credential : Credential) (names : List String) (request : Http.Request) : Prop where
  method : request.method = "POST"
  path : request.path = "/signin"
  read : request.body.map (Json.decode SignIn.read) = some (.ok ⟨credential, names⟩)

/-- A request to check the permissions of these names that presents this token. -/
structure Checks (gateway : Gateway) (token : String) (names : List String)
    (request : Http.Request) : Prop where
  method : request.method = "POST"
  path : request.path = "/authorize"
  read : request.body.map Authorization.ofBody = some (.ok ⟨names⟩)
  presents : Presents gateway.authority.settings.cookieName token request.headers

/-- A request to sign out that presents this token. -/
structure SignsOut (gateway : Gateway) (token : String) (request : Http.Request) : Prop where
  method : request.method = "POST"
  path : request.path = "/signout"
  presents : Presents gateway.authority.settings.cookieName token request.headers

/-- Where the verifier knows the client and its names stand for something, it is handed out the token
that the authority issues. -/
theorem run_signIn {start middle : Deployment Store} {occasion : Occasion} {credential : Credential}
    {verification : Verification} {permissions : Permission}
    (signs : SignsIn credential names request) (said : occasion.said = .ok verification)
    (known : verification.ok = true) (named : verification.subject ≠ "")
    (resolved : gateway.table.resolve names verification.privileged = .ok permissions)
    (issued : start.attempt occasion.facilities
      (gateway.authority.issue verification.subject permissions) = (.ok token, middle)) :
    start.run occasion.facilities (gateway.handle request) =
      (reply (.granting token) (some (gateway.sessionCookie token)), middle) := by
  have asked : (Operation.query (.verification credential)).run
      (Deployment.answer occasion.facilities) start = (.ok verification, start) := by
    rw [← said]
    rfl
  have granted : (gateway.grant verification names).run (Deployment.answer occasion.facilities)
      start = (.granting token, middle) := by
    have issued : (gateway.authority.issue verification.subject permissions).run.run
      (Deployment.answer occasion.facilities) start = (.ok token, middle) := issued
    rw [grant, resolved]
    simp only [Operation.run_bind, issued]
    rfl
  have signed : (gateway.signIn credential names).run (Deployment.answer occasion.facilities)
      start = (.granting token, middle) := by
    rw [signIn, Operation.run_bind, asked]
    simp only [known, named, ne_eq, not_false_eq_true, and_self, ↓reduceIte, granted]
  unfold handle
  rw [signs.method, signs.path]
  simp only [Deployment.run, handleSignIn, signs.read, Operation.run_bind, signed]
  rfl

/-- The replies that let a client in: they hand out the token, and set a cookie whose value it is. -/
structure LetsIn (gateway : Gateway) (token : String) (reply : Http.Reply) : Prop where
  status : reply.status = .ok
  plain : IsToken (Text.utf8 token)
  told : reply.body = Json.Print.object
    [("allowed", Json.Print.boolean true), ("token", Json.Print.text token)]
  cookie : ∃ value, reply.headers.filter (·.hasName "set-cookie") = [⟨"set-cookie", value⟩] ∧
    (cookies value).head? = some (Text.utf8 gateway.authority.settings.cookieName, Text.utf8 token)

/-- The decision where the permissions of these names are required: this one, if the names are known. -/
def ruling (gateway : Gateway) (names : List String) (decide : Permission → Decision) : Decision :=
  match gateway.table.resolve names true with
  | .ok required => decide required
  | .error _ => .deny .badRequest "unrecognized permission"

/-- The decision about a client of whom the authority says this. -/
def judged (gateway : Gateway) (required : Permission) : Except AuthError Bool → Decision
  | .ok allowed => gateway.verdict required allowed
  | .error error => .ofError error

/-- Whoever has this token checked here, where nothing goes wrong, is told this decision. -/
def Tells (gateway : Gateway) (deployment : Deployment Store) (token : String)
    (decide : Permission → Decision) : Prop :=
  ∀ (facilities : Deployment.Facilities Store) names request, facilities.cancellation = .never →
    Checks gateway token names request →
    (deployment.run facilities (gateway.handle request)).1 =
      reply (gateway.ruling names decide) none

/-- The times at which a token counts that has been issued at some moment. -/
structure InWindow (settings : Settings) (moment now : Timestamp) : Prop where
  leeway : settings.leeway ≤ now
  begun : moment ≤ now + settings.leeway
  lasts : now.toNat ≤
    (saturatingAdd moment settings.tokenLifetime).toNat + settings.leeway.toNat

section

variable (named : IsToken (Text.utf8 gateway.authority.settings.cookieName))
  (plain : IsToken (Text.utf8 token))
include named plain

theorem letsIn_of_plain :
    LetsIn gateway token (reply (.granting token) (some (gateway.sessionCookie token))) := by
  have legal := isLegal_sessionCookie named plain
  have told : reply (.granting token) (some (gateway.sessionCookie token)) =
      { status := .ok
        headers := [⟨"content-type", Text.utf8 "application/json"⟩,
          ⟨"set-cookie", Text.utf8 (gateway.sessionCookie token)⟩]
        body := (Decision.granting token).json } := if_pos legal
  have other : "content-type".map Char.toLower ≠ "set-cookie" := by decide +kernel
  have same : "set-cookie".map Char.toLower = "set-cookie" := by decide +kernel
  rw [told]
  refine ⟨rfl, plain, rfl, _, ?_, head?_cookies_sessionCookie named plain⟩
  simp [Header.hasName, other, same]

/-- Whoever has this token checked is told what the authority says about it. -/
theorem run_check (checks : Checks gateway token names request) :
    (deployment.run facilities (gateway.handle request)).1 =
      reply (gateway.ruling names fun required => gateway.judged required
        (deployment.attempt facilities (gateway.authority.verify token required)).1) none := by
  have presented := bearerToken_of_presents named plain checks.presents
  have authorized : ∀ required, ((gateway.authorize request.headers required).run
      (Deployment.answer facilities) deployment).1 = gateway.judged required
        (deployment.attempt facilities (gateway.authority.verify token required)).1 := by
    intro required
    simp only [authorize, presented, Operation.run_bind, Deployment.attempt, Deployment.run]
    rcases (Operation.run (Deployment.answer facilities)
      (gateway.authority.verify token required).run deployment).1 with error | allowed
    · rfl
    · cases allowed <;> rfl
  unfold handle
  rw [checks.method, checks.path]
  simp only [Deployment.run, handleAuthorize, checks.read, Operation.run_bind, authorizeNames, ruling]
  cases resolved : gateway.table.resolve names true with
  | ok required => exact congrArg (reply · none) (authorized required)
  | error error =>
    obtain ⟨name, rfl⟩ := Permission.Table.resolve_eq_error resolved
    rfl

/-- Whoever asks to be signed out is told how the revocation of the token has ended. -/
theorem run_signOut (leaves : SignsOut gateway token request) :
    deployment.run facilities (gateway.handle request) =
      match deployment.attempt facilities (gateway.authority.revoke token) with
      | (.ok (), after) => (reply (.allow (some "signed out")) (some gateway.clearedCookie), after)
      | (.error error, after) => (reply (.ofError error) none, after) := by
  have presented := bearerToken_of_presents named plain leaves.presents
  unfold handle
  rw [leaves.method, leaves.path]
  simp only [Deployment.run, Deployment.attempt, handleSignOut, signOut, presented,
    Operation.run_bind]
  rcases (gateway.authority.revoke token).run.run (Deployment.answer facilities) deployment with
    ⟨error | value, after⟩
  · have denied : (Decision.ofError error).allowed = false := (Decision.Refuses.ofError error).denied
    simp only [Operation.run_pure, denied, Bool.false_eq_true, ↓reduceIte]
  · rfl

/-- Whoever is signed out has had the token revoked. -/
theorem attempt_revoke_of_signOut (leaves : SignsOut gateway token request)
    (left : (deployment.run facilities (gateway.handle request)).1.status = .ok) :
    deployment.attempt facilities (gateway.authority.revoke token) =
      (.ok (), (deployment.run facilities (gateway.handle request)).2) := by
  rw [run_signOut named plain leaves] at left ⊢
  generalize deployment.attempt facilities (gateway.authority.revoke token) = attempted at left ⊢
  rcases attempted with ⟨error | value, after⟩
  · have told : (reply (.ofError error) none).status = .ok := left
    rcases status_reply_cases (Decision.ofError error) none with kept | lost
    · exact absurd (kept.symm.trans told) (Decision.Refuses.ofError error).status
    · exact absurd (lost.symm.trans told) (by decide)
  · rfl

theorem tells_of_verify {decide : Permission → Decision}
    (judged : ∀ facilities : Deployment.Facilities Store, facilities.cancellation = .never →
      ∀ required, gateway.judged required
        (deployment.attempt facilities (gateway.authority.verify token required)).1 =
          decide required) : gateway.Tells deployment token decide := by
  intro facilities names request never checks
  rw [run_check named plain checks]
  exact congrArg (fun decide => reply (gateway.ruling names decide) none)
    (funext (judged facilities never))

/-- While the secret that signed it is visible, a token opens in its window what it states. -/
theorem tells_of_held {secret : Secret} {subject : String} {permissions : Permission}
    {moment : Timestamp} (valid : gateway.authority.Valid)
    (encoded : gateway.authority.codec.encode ⟨subject, permissions, moment, moment,
      saturatingAdd moment gateway.authority.settings.tokenLifetime,
      gateway.authority.settings.issuer⟩ secret = .ok token)
    (calm : deployment.troubles = {})
    (held : deployment.world.held (Secret.key subject) = some secret)
    (inside : InWindow gateway.authority.settings moment deployment.now) :
    gateway.Tells deployment token fun required =>
      gateway.verdict required (permissions.hasAll required) := by
  apply tells_of_verify named plain
  intro facilities never required
  have met : deployment.troubles.next (.get (Secret.key subject)) = .pass := by rw [calm]; rfl
  obtain ⟨small, begun, lasts⟩ := inside
  rw [← valid.leeway] at small begun lasts
  rw [Authority.attempt_verify never met held encoded valid.issuer.symm,
    Token.Codec.checkWindow_of_mem small begun lasts]
  rfl

/-- While no secret is visible that has signed it, a token opens nothing. -/
theorem tells_of_forgotten {hint : Claims} (peeked : Token.peek token = .ok hint)
    (calm : deployment.troubles = {})
    (forgotten : ∀ secret, deployment.world.held (Secret.key hint.subject) = some secret →
      ¬ Token.Tagged token secret) :
    gateway.Tells deployment token fun _ => .unauthorized := by
  apply tells_of_verify named plain
  intro facilities never required
  have met : deployment.troubles.next (.get (Secret.key hint.subject)) = .pass := by rw [calm]; rfl
  cases held : deployment.world.held (Secret.key hint.subject) with
  | none =>
    rw [Authority.attempt_verify_of_gone never peeked met held]
    rfl
  | some secret =>
    rw [Authority.attempt_verify_of_strange never calm peeked held (forgotten secret held)]
    rfl

/-- While the secret that signed it is visible, a client can sign out with a token, whenever it counts. -/
theorem signOut_of_held {secret : Secret} {claims : Claims}
    (signed : gateway.authority.codec.decodeIgnoringTime token secret = .ok claims)
    (calm : deployment.troubles = {}) (never : facilities.cancellation = .never)
    (held : deployment.world.held (Secret.key claims.subject) = some secret)
    (leaves : SignsOut gateway token request) :
    (deployment.run facilities (gateway.handle request)).1.status = .ok := by
  obtain ⟨after, revoked⟩ : ∃ after, deployment.attempt facilities
      (gateway.authority.revoke token) = (.ok (), after) :=
    ⟨_, Prod.ext (Authority.attempt_revoke_of_signed never calm held signed) rfl⟩
  rw [run_signOut named plain leaves, revoked]
  have legal : ((some gateway.clearedCookie).map Text.utf8).getD [] = Text.utf8 gateway.clearedCookie :=
    rfl
  simp only [reply, legal, isLegal_clearedCookie named, ↓reduceIte]
  rfl

/-- A client that signs out ends the session: until a secret is offered that has signed the token by
chance, it opens nothing. -/
theorem tells_of_signOut {hint : Claims} {turns : List (Turn Http.Request)}
    (peeked : Token.peek token = .ok hint) (calm : deployment.troubles = {})
    (never : facilities.cancellation = .never) (leaves : SignsOut gateway token request)
    (left : (deployment.run facilities (gateway.handle request)).1.status = .ok)
    (smooth : ∀ turn ∈ turns, turn.Smooth)
    (uses : (deployment.run facilities (gateway.handle request)).2.EachUse gateway.handle
      (fun access => ∀ secret, access.Offers (Secret.key hint.subject) secret →
        ¬ Token.Tagged token secret) turns) :
    gateway.Tells ((deployment.run facilities (gateway.handle request)).2.after gateway.handle turns)
      token fun _ => .unauthorized := by
  have revoked := attempt_revoke_of_signOut named plain leaves left
  have gone := Authority.held_of_revoked never calm peeked revoked
  have still := (Deployment.elapsed_run never calm (gateway.handle request)).calm
  generalize (deployment.run facilities (gateway.handle request)).2 = middle at *
  obtain ⟨millis, elapsed⟩ : ∃ millis, Deployment.Elapsed millis middle
    (middle.after gateway.handle turns) := Deployment.elapsed_after smooth still
  apply tells_of_forgotten named plain peeked elapsed.calm
  intro secret held
  refine Deployment.held_of_eachUse smooth still uses ?_ held
  intro other before
  rw [gone] at before
  cases before

end

/-- Somebody signs in. -/
def sampleArrival : Http.Request :=
  ⟨"POST", "/signin", [], some (SignIn.json ⟨⟨"ann", "open sesame"⟩, ["read_account"]⟩)⟩

/-- What is replied at the start of second 1000, and the deployment a minute later. -/
def sampleEntry : Http.Reply × Deployment Store :=
  Deployment.sampleStart.run (sampleVerified false).facilities (sample.handle sampleArrival)

def sampleMinuteLater : Deployment Store := sampleEntry.2.after sample.handle [.wait 60000]

/-- Somebody is asked for a permission, and presents a token as one cookie among others. -/
def sampleCheck (token name : String) : Http.Request :=
  ⟨"POST", "/authorize",
    [⟨"cookie", (Text.utf8 "token" ++ ascii '=' :: Text.utf8 token) ++ Text.utf8 "; theme=dark"⟩],
    some (Authorization.json ⟨[name]⟩)⟩

/-- Somebody signs out. -/
def sampleDeparture (token : String) : Http.Request :=
  ⟨"POST", "/signout", [⟨"authorization", Text.utf8 ("Bearer " ++ token)⟩], some []⟩

theorem checks_sampleCheck {token : String} (named : IsToken (Text.utf8 "token"))
    (plain : IsToken (Text.utf8 token)) (name : String) :
    Checks sample token [name] (sampleCheck token name) where
  method := rfl
  path := show Http.pathOf "/authorize" = "/authorize" by decide +kernel
  read := congrArg some (Authorization.ofBody_json _)
  presents := by
    have theme : Text.utf8 "; theme=dark" = ascii ';' :: Text.utf8 " theme=dark" := by
      decide +kernel
    have readable : ((Text.utf8 "token" ++ ascii '=' :: Text.utf8 token) ++
        Text.utf8 "; theme=dark").all Header.isReadable = true := by
      have last : (Text.utf8 "; theme=dark").all Header.isReadable = true := by decide +kernel
      have mark : Header.isReadable (ascii '=') = true := by decide
      simp only [List.all_append, List.all_cons, isReadable_of_token named.2,
        isReadable_of_token plain.2, last, mark, Bool.and_self]
    have cookie : "cookie".map Char.toLower = "cookie" := by decide +kernel
    have other : "cookie".map Char.toLower ≠ "authorization" := by decide +kernel
    have held := firstCookie_append named plain (Text.utf8 " theme=dark")
    rw [← theme] at held
    have none : ∀ header ∈ [] ++ (sampleCheck token name).headers,
        header.hasName "authorization" = false := by
      intro header member
      obtain rfl := List.mem_singleton.mp member
      exact decide_eq_false other
    exact .cookie none (by simp) (decide_eq_true cookie) readable held

theorem signsOut_sampleDeparture (token : String) :
    SignsOut sample token (sampleDeparture token) where
  method := rfl
  path := show Http.pathOf "/signout" = "/signout" by decide +kernel
  presents := by
    have named : "authorization".map Char.toLower = "authorization" := by decide +kernel
    have none : ∀ other ∈ ([] : List Header), other.hasName "authorization" = false := by simp
    exact .bearer none (decide_eq_true named) rfl

end Gateway
end Signet
