import Signet.Proofs.Authority.Secrecy
import Signet.Proofs.Authority.Trust
import Signet.Proofs.Deployment.Course
import Signet.Proofs.Deployment.Secrecy

/-! Sessions with an authority in which only its own tokens are presented. Whatever secrets are drawn
in a session, nothing shows them but the tokens that are handed out. -/

namespace Signet

/-- What requests for random bytes come to, one after the other: a secret, or why there is none. -/
abbrev RandomStream := List (Except String Secret)

/-- Lists that are related have related members in the same places. -/
theorem rel_getElem? {α β : Type} {related : α → β → Prop} {first : List α} {second : List β}
    (places : List.Forall₂ related first second) (place : Nat) :
    Option.Rel related first[place]? second[place]? := by
  induction places generalizing place with
  | nil => exact .none
  | cons same _ ih =>
    cases place with
    | zero => exact .some same
    | succ place => exact ih place

namespace RandomStream

variable {length : Nat} {stream first second : RandomStream}

/-- The secrets that a stream yields. -/
def secrets (stream : RandomStream) : List Secret := stream.filterMap Except.toOption

/-- What a request comes to. Behind its end, a stream yields nothing. -/
def draw (stream : RandomStream) (request : Nat) : Except String Secret :=
  stream[request]?.getD (.error "no random bytes left")

/-- What is at hand where the stream is drawn from. Nobody verifies credentials. -/
def facilities (stream : RandomStream) (cancellation : Deployment.Cancellation) :
    Deployment.Facilities Store where
  random := fun request _ => (stream.draw request).map Secret.bytes
  verify := fun store _ => (.error .unknownSubject, store)
  cancellation := cancellation

/-- Streams that fail at the same requests, for the same reasons. Their secrets are as long as they are
asked for, and neither yields a secret twice. -/
structure Alike (length : Nat) (first second : RandomStream) : Prop where
  places : List.Forall₂ (Agree fun one other => one.length = length ∧ other.length = length)
    first second
  distinct : first.secrets.Nodup
  also : second.secrets.Nodup

theorem mem_secrets {secret : Secret} {request : Nat}
    (drawn : stream[request]? = some (.ok secret)) : secret ∈ stream.secrets :=
  List.mem_filterMap.mpr ⟨_, List.mem_of_getElem? drawn, rfl⟩

/-- A secret is drawn by one request only. -/
theorem request_unique {secret : Secret} {request other : Nat} (distinct : stream.secrets.Nodup)
    (drawn : stream[request]? = some (.ok secret)) (again : stream[other]? = some (.ok secret)) :
    request = other := by
  rw [secrets, List.Nodup, List.pairwise_filterMap, List.pairwise_iff_getElem] at distinct
  obtain ⟨short, here⟩ := List.getElem?_eq_some_iff.mp drawn
  obtain ⟨within, there⟩ := List.getElem?_eq_some_iff.mp again
  have ordered : ∀ {one two : Nat} (first : one < stream.length) (second : two < stream.length),
      stream[one] = .ok secret → stream[two] = .ok secret → two ≤ one := by
    intro one two first second found also
    refine Nat.le_of_not_lt fun less => ?_
    exact distinct one two first second less secret (by rw [found]; rfl) secret
      (by rw [also]; rfl) rfl
  exact Nat.le_antisymm (ordered within short there here) (ordered short within here there)

/-- The same request draws both secrets. -/
def Together (first second : RandomStream) (one other : Secret) : Prop :=
  ∃ request : Nat, first[request]? = some (.ok one) ∧ second[request]? = some (.ok other)

namespace Alike

theorem draw (alike : Alike length first second) (request : Nat) :
    Agree (Together first second) (first.draw request) (second.draw request) := by
  have drawn := rel_getElem? alike.places request
  unfold RandomStream.draw
  generalize one : first[request]? = left at drawn ⊢
  generalize other : second[request]? = right at drawn ⊢
  cases drawn with
  | none => exact .error _
  | some agree =>
    cases agree with
    | ok _ => exact .ok ⟨request, one, other⟩
    | error reason => exact .error reason

theorem lengths (alike : Alike length first second) {one other : Secret}
    (together : Together first second one other) : one.length = length ∧ other.length = length := by
  obtain ⟨request, drawn, also⟩ := together
  have places := rel_getElem? alike.places request
  rw [drawn, also] at places
  cases places with
  | some agree =>
    cases agree with
    | ok lengths => exact lengths

theorem same_iff (alike : Alike length first second) {one other left right : Secret}
    (together : Together first second one other) (pair : Together first second left right) :
    one = left ↔ other = right := by
  obtain ⟨request, drawn, also⟩ := together
  obtain ⟨later, here, there⟩ := pair
  constructor
  · rintro rfl
    obtain rfl := request_unique alike.distinct drawn here
    exact Except.ok.inj (Option.some.inj (also.symm.trans there))
  · rintro rfl
    obtain rfl := request_unique alike.also also there
    exact Except.ok.inj (Option.some.inj (drawn.symm.trans here))

/-- Secrets that the same request draws stand in the same places. -/
def matching (alike : Alike length first second) (some : length ≠ 0) : Matching where
  pairs := Together first second
  same_iff := alike.same_iff
  full := by
    have full : ∀ secret : Secret, secret.length = length → secret.isEmpty = false := by
      rintro secret rfl
      exact List.isEmpty_eq_false_iff.mpr (List.ne_nil_of_length_pos (Nat.pos_of_ne_zero some))
    intro one other together
    obtain ⟨long, also⟩ := alike.lengths together
    exact ⟨full one long, full other also⟩

theorem facilities (alike : Alike length first second) (some : length ≠ 0)
    (cancellation : Deployment.Cancellation) :
    Deployment.Facilities.Twin (alike.matching some) (first.facilities cancellation)
      (second.facilities cancellation) where
  random := fun request _ _ => (alike.draw request).map fun _ _ together => together
  cancellation := rfl

end Alike
end RandomStream

namespace Authority

open Deployment (Cancellation)

/-- What is done in a session. A token is presented by its number among those that have been handed out
before; where there is none of that number, nothing is done. -/
inductive Step where
  | issue (stamp : Option Timestamp) (subject : String) (permissions : Permission)
      (cancellation : Cancellation)
  /-- So many tokens are issued side by side. -/
  | issueMany (count : Nat) (stamp : Option Timestamp) (subject : String) (permissions : Permission)
      (cancellation : Cancellation)
  | verify (number : Nat) (required : Permission) (cancellation : Cancellation)
  | revoke (number : Nat) (cancellation : Cancellation)
  | revokeSubject (subject : String) (cancellation : Cancellation)
  | wait (millis : Nat)
  | purge
  /-- Calls to the store will meet these troubles, after those that they are to meet already. -/
  | meet (troubles : Troubles)

/-- No call will be answered in place of the store. -/
def Step.Genuine : Step → Prop
  | meet troubles => ∀ trouble ∈ troubles.get ++ troubles.claim ++ troubles.delete,
      ∀ secret, trouble ≠ .answering secret
  | _ => True

/-- What a step is answered with. -/
inductive Reply (τ : Type) where
  | tokens (each : List (Except AuthError τ))
  | verdict (result : Except AuthError Bool)
  | done (result : Except AuthError Unit)
  | purged (count : Nat)
  | nothing

namespace Reply

/-- The answer without the text of its tokens. -/
def blank : Reply String → Reply Unit
  | tokens each => tokens (each.map fun result => result.map fun _ => ())
  | verdict result => verdict result
  | done result => done result
  | purged count => purged count
  | nothing => nothing

/-- The tokens that are handed out. -/
def handed : Reply String → List String
  | tokens each => each.filterMap Except.toOption
  | verdict _ | done _ | purged _ | nothing => []

end Reply

/-- A deployment, and the tokens that have been handed out. -/
structure Session where
  deployment : Deployment Store
  tokens : List String

/-- What is seen of a session after a step: its answer, the number of entries in the store, the store's
clock and everything that has been reported. -/
structure Sight where
  reply : Reply Unit
  entries : Nat
  clock : Instant
  reports : List Log.Event

/-- Asks an authority for something, and the deployment afterwards. -/
def ask {α : Type} (facilities : Deployment.Facilities Store) (deployment : Deployment Store)
    (reply : Except AuthError α → Reply String) (attempt : Attempt α) :
    Reply String × Deployment Store :=
  let (result, after) := deployment.attempt facilities attempt
  (reply result, after)

/-- What a step is answered with, and the deployment after it. -/
def serve (authority : Authority) (stream : RandomStream) (tokens : List String)
    (deployment : Deployment Store) : Step → Reply String × Deployment Store
  | .issue stamp subject permissions cancellation =>
    ask (stream.facilities cancellation) deployment (fun result => .tokens [result])
      ({ authority with stamp }.issue subject permissions)
  | .issueMany count stamp subject permissions cancellation =>
    let (results, after) := deployment.runAll (stream.facilities cancellation)
      (List.replicate count ({ authority with stamp }.issue subject permissions).run)
    (.tokens results, after)
  | .verify number required cancellation =>
    tokens[number]?.elim (.nothing, deployment) fun token =>
      ask (stream.facilities cancellation) deployment .verdict (authority.verify token required)
  | .revoke number cancellation =>
    tokens[number]?.elim (.nothing, deployment) fun token =>
      ask (stream.facilities cancellation) deployment .done (authority.revoke token)
  | .revokeSubject subject cancellation =>
    ask (stream.facilities cancellation) deployment .done (authority.revokeSubject subject)
  | .wait millis => (.nothing, deployment.advance millis)
  | .purge =>
    let (count, store) := deployment.store.purge deployment.clock
    (.purged count, { deployment with store }.report (Store.purgeReport count))
  | .meet troubles =>
    (.nothing, { deployment with troubles := deployment.troubles.followedBy troubles })

/-- What is seen of a step. -/
def Sight.of (served : Reply String × Deployment Store) : Sight :=
  ⟨served.1.blank, served.2.store.size, served.2.clock, served.2.reports⟩

namespace Session

/-- A session that begins with an empty store. -/
def start (wall : Int) (clock : Instant) : Session := ⟨⟨wall, clock, .empty, {}, 0, []⟩, []⟩

/-- What comes of a step of a session. -/
def step (authority : Authority) (stream : RandomStream) (session : Session) (step : Step) :
    Reply String × Deployment Store :=
  authority.serve stream session.tokens session.deployment step

/-- The session after a step. -/
def next (authority : Authority) (stream : RandomStream) (session : Session) (step : Step) : Session :=
  let (reply, deployment) := session.step authority stream step
  ⟨deployment, session.tokens ++ reply.handed⟩

/-- The session after some steps. -/
def after (authority : Authority) (stream : RandomStream) (session : Session) (steps : List Step) :
    Session :=
  steps.foldl (next authority stream) session

/-- What is seen of some steps, one after the other. -/
def sights (authority : Authority) (stream : RandomStream) : Session → List Step → List Sight
  | _, [] => []
  | session, step :: steps =>
    .of (session.step authority stream step) ::
      (session.next authority stream step).sights authority stream steps

end Session

/-- The same answer, but for tokens that are related. -/
inductive Reply.Twin (related : String → String → Prop) : Reply String → Reply String → Prop where
  | tokens {first second : List (Except AuthError String)}
      (each : List.Forall₂ (Agree related) first second) : Twin related (.tokens first) (.tokens second)
  | verdict (result : Except AuthError Bool) : Twin related (.verdict result) (.verdict result)
  | done (result : Except AuthError Unit) : Twin related (.done result) (.done result)
  | purged (count : Nat) : Twin related (.purged count) (.purged count)
  | nothing : Twin related .nothing .nothing

section

variable {related : String → String → Prop} {one other : Reply String}

theorem Reply.Twin.blank_eq (twin : Reply.Twin related one other) : one.blank = other.blank := by
  cases twin with
  | @tokens first second each =>
    have same : List.Forall₂ Eq (first.map fun result => result.map fun _ => ())
        (second.map fun result => result.map fun _ => ()) :=
      List.rel_map (fun _ _ agree => (agree.map fun _ _ _ => rfl).eq) each
    rw [List.forall₂_eq_eq_eq] at same
    exact congrArg Reply.tokens same
  | verdict result => rfl
  | done result => rfl
  | purged count => rfl
  | nothing => rfl

theorem Reply.Twin.handed (twin : Reply.Twin related one other) :
    List.Forall₂ related one.handed other.handed := by
  cases twin with
  | tokens each =>
    refine List.rel_filterMap ?_ each
    rintro _ _ (same | error)
    · exact .some same
    · exact .none
  | verdict result => exact .nil
  | done result => exact .nil
  | purged count => exact .nil
  | nothing => exact .nil

end

/-- Answers with tokens that state the same, and else the same; and deployments that hold secrets in the
same places. -/
def Served (matching : Matching) (codec : Token.Codec)
    (one other : Reply String × Deployment Store) : Prop :=
  Reply.Twin (Token.Written matching codec) one.1 other.1 ∧ Deployment.Twin matching one.2 other.2

theorem Served.sight_eq {matching : Matching} {codec : Token.Codec}
    {one other : Reply String × Deployment Store} (served : Served matching codec one other) :
    Sight.of one = Sight.of other := by
  obtain ⟨replies, deployments⟩ := served
  have entries : one.2.store.size = other.2.store.size := Dict.Alike.size deployments.stores
  rw [Sight.of, Sight.of, replies.blank_eq, entries, deployments.clock, deployments.reports]

section

variable {authority : Authority} {matching : Matching} {codec : Token.Codec}
  {first second : RandomStream} {here there : List String} {one other : Deployment Store}

theorem served_ask {α β : Type} {related : α → β → Prop}
    {left right : Deployment.Facilities Store} {reply : Except AuthError α → Reply String}
    {twin : Except AuthError β → Reply String} {attempt : Attempt α} {also : Attempt β}
    (facilities : Deployment.Facilities.Twin matching left right)
    (deployments : Deployment.Twin matching one other)
    (parallel : Attempt.Parallel matching related attempt also)
    (replies : ∀ result found, Agree related result found →
      Reply.Twin (Token.Written matching codec) (reply result) (twin found)) :
    Served matching codec (ask left one reply attempt) (ask right other twin also) := by
  obtain ⟨agree, later⟩ := deployments.run facilities parallel
  exact ⟨replies _ _ agree, later⟩

theorem served_same {α : Type} {left right : Deployment.Facilities Store}
    {reply : Except AuthError α → Reply String} {attempt also : Attempt α}
    (facilities : Deployment.Facilities.Twin matching left right)
    (deployments : Deployment.Twin matching one other)
    (parallel : Attempt.Parallel matching Eq attempt also)
    (same : ∀ result, Reply.Twin (Token.Written matching codec) (reply result) (reply result)) :
    Served matching codec (ask left one reply attempt) (ask right other reply also) := by
  refine served_ask facilities deployments parallel ?_
  intro result found agree
  rw [agree.eq]
  exact same found

/-- A token is presented in both sessions, or there is none of that number. -/
theorem served_presented {number : Nat} {reply twin : String → Reply String × Deployment Store}
    (tokens : Option.Rel (Token.Twin matching) here[number]? there[number]?)
    (deployments : Deployment.Twin matching one other)
    (each : ∀ token again, Token.Twin matching token again →
      Served matching codec (reply token) (twin again)) :
    Served matching codec (here[number]?.elim (.nothing, one) reply)
      (there[number]?.elim (.nothing, other) twin) := by
  generalize here[number]? = token at tokens ⊢
  generalize there[number]? = again at tokens ⊢
  cases tokens with
  | none => exact ⟨.nothing, deployments⟩
  | some same => exact each _ _ same

/-- Steps of two sessions are answered with tokens that state the same, and else with the same. -/
theorem served_step (some : authority.settings.secretLength.toNat ≠ 0)
    (facilities : ∀ cancellation, Deployment.Facilities.Twin matching
      (first.facilities cancellation) (second.facilities cancellation))
    (tokens : ∀ number : Nat, Option.Rel (Token.Twin matching) here[number]? there[number]?)
    (deployments : Deployment.Twin matching one other) {step : Step} (genuine : step.Genuine) :
    Served matching authority.codec (authority.serve first here one step)
      (authority.serve second there other step) := by
  cases step with
  | issue stamp subject permissions cancellation =>
    refine served_ask (facilities cancellation) deployments
      (parallel_issue { authority with stamp } some subject permissions) ?_
    exact fun _ _ agree => .tokens (.cons agree .nil)
  | issueMany count stamp subject permissions cancellation =>
    have parallel : ∀ operation ∈
        List.replicate count ({ authority with stamp }.issue subject permissions).run,
        Operation.Parallel matching (Agree (Token.Written matching authority.codec)) operation
          operation := by
      intro operation member
      rw [List.eq_of_mem_replicate member]
      exact parallel_issue { authority with stamp } some subject permissions
    obtain ⟨each, later⟩ :=
      deployments.runAll (facilities cancellation) (List.forall₂_same.mpr parallel)
    exact ⟨.tokens each, later⟩
  | verify number required cancellation =>
    refine served_presented (tokens number) deployments fun token again same => ?_
    exact served_same (facilities cancellation) deployments (parallel_verify same required) .verdict
  | revoke number cancellation =>
    refine served_presented (tokens number) deployments fun token again same => ?_
    exact served_same (facilities cancellation) deployments (parallel_revoke same) .done
  | revokeSubject subject cancellation =>
    simp only [serve]
    exact served_same (facilities cancellation) deployments
      (parallel_revokeSubject authority subject) .done
  | wait millis =>
    refine ⟨.nothing, { deployments with genuine := deployments.genuine, wall := ?_, clock := ?_ }⟩
    · exact congrArg (· + (millis : Int)) deployments.wall
    · exact congrArg (· + Span.ofMillis millis) deployments.clock
  | purge =>
    obtain ⟨count, kept⟩ := Matching.purge deployments.stores other.clock
    simp only [serve, deployments.clock, count]
    refine ⟨.purged _, Deployment.Twin.report ?_ _⟩
    exact { deployments with genuine := deployments.genuine, clock := rfl, stores := kept }
  | meet troubles =>
    refine ⟨.nothing, { deployments with genuine := ?_, troubles := ?_ }⟩
    · exact congrArg (Troubles.followedBy · troubles) deployments.troubles
    · exact deployments.genuine.followedBy genuine

end

namespace Session

variable {authority : Authority} {matching : Matching} {first second : RandomStream}
  {one other : Session}

/-- Sessions in which tokens that state the same have been handed out, in deployments that hold secrets in
the same places. -/
structure Twin (matching : Matching) (codec : Token.Codec) (one other : Session) : Prop where
  deployments : Deployment.Twin matching one.deployment other.deployment
  tokens : List.Forall₂ (Token.Written matching codec) one.tokens other.tokens

/-- The tags of every token that the session has handed out are different under different secrets of the
stream. -/
def SignedOnce (stream : RandomStream) (session : Session) : Prop :=
  ∀ token ∈ session.tokens, Token.SignedOnce token stream.secrets

theorem tokens_subset_after (session : Session) (steps : List Step) :
    session.tokens ⊆ (session.after authority first steps).tokens := by
  induction steps generalizing session with
  | nil => exact List.Subset.refl _
  | cons step steps ih =>
    exact List.Subset.trans (List.subset_append_left _ _) (ih (session.next authority first step))

theorem SignedOnce.of_after {steps : List Step}
    (signed : SignedOnce first (one.after authority first steps)) : SignedOnce first one :=
  fun token member => signed token (one.tokens_subset_after steps member)

/-- Whatever token is presented in both sessions, it is found to be signed with secrets in the same
places. -/
theorem Twin.presented (twin : Twin matching authority.codec one other)
    (drawn : ∀ {left right}, matching.pairs left right →
      left ∈ first.secrets ∧ right ∈ second.secrets)
    (here : SignedOnce first one) (there : SignedOnce second other) (number : Nat) :
    Option.Rel (Token.Twin matching) one.tokens[number]? other.tokens[number]? := by
  have written := rel_getElem? twin.tokens number
  generalize token : one.tokens[number]? = left at written ⊢
  generalize again : other.tokens[number]? = right at written ⊢
  cases written with
  | none => exact .none
  | some same =>
    have signed := here _ (List.mem_of_getElem? token)
    exact .some (same.twin drawn signed (there _ (List.mem_of_getElem? again)))

theorem Twin.sights_eq (some : authority.settings.secretLength.toNat ≠ 0)
    (drawn : ∀ {left right}, matching.pairs left right →
      left ∈ first.secrets ∧ right ∈ second.secrets)
    (facilities : ∀ cancellation, Deployment.Facilities.Twin matching
      (first.facilities cancellation) (second.facilities cancellation)) {steps : List Step}
    (genuine : ∀ step ∈ steps, step.Genuine) (twin : Twin matching authority.codec one other)
    (here : SignedOnce first (one.after authority first steps))
    (there : SignedOnce second (other.after authority second steps)) :
    one.sights authority first steps = other.sights authority second steps := by
  induction steps generalizing one other with
  | nil => rfl
  | cons step steps ih =>
    obtain ⟨head, rest⟩ := List.forall_mem_cons.mp genuine
    have tokens := twin.presented drawn here.of_after there.of_after
    have served := served_step some facilities tokens twin.deployments head
    have later : Twin matching authority.codec (one.next authority first step)
        (other.next authority second step) :=
      ⟨served.2, List.rel_append twin.tokens served.1.handed⟩
    have seen : Sight.of (one.step authority first step) = .of (other.step authority second step) :=
      served.sight_eq
    rw [sights, sights, seen, ih rest later here there]

end Session

/-- Secrets show in nothing but tokens. A session is made twice, with secrets from two streams that fail
at the same requests, and in both of them the tokens of the same numbers are presented. Whatever goes
wrong with the store and whatever is cancelled, both are answered the same but for the texts of tokens,
hold as many entries, take as long and report the same, word for word; so no report carries anything of
a secret, a signature or a whole token. Of the tags it is assumed that no token that is handed out has the
same one under two secrets of its stream. -/
theorem secrets_show_in_tokens_only {authority : Authority} {first second : RandomStream}
    {steps : List Step} (wall : Int) (clock : Instant) (valid : authority.Valid)
    (alike : RandomStream.Alike authority.settings.secretLength.toNat first second)
    (genuine : ∀ step ∈ steps, step.Genuine)
    (here : Session.SignedOnce first ((Session.start wall clock).after authority first steps))
    (there : Session.SignedOnce second ((Session.start wall clock).after authority second steps)) :
    (Session.start wall clock).sights authority first steps =
      (Session.start wall clock).sights authority second steps := by
  have some : authority.settings.secretLength.toNat ≠ 0 := Nat.ne_of_gt valid.secretLength_pos
  have begun : Deployment.Twin (alike.matching some) (Session.start wall clock).deployment
      (Session.start wall clock).deployment :=
    ⟨rfl, rfl, .nil, rfl, by simp [Deployment.Genuine, Session.start], rfl, rfl⟩
  refine Session.Twin.sights_eq some ?_ (alike.facilities some) genuine ⟨begun, .nil⟩ here there
  rintro left right ⟨request, drawn, also⟩
  exact ⟨RandomStream.mem_secrets drawn, RandomStream.mem_secrets also⟩

/-- Two secrets, between which a request fails. -/
def sampleStream (one two : UInt8) : RandomStream :=
  [.ok ⟨List.replicate 32 one⟩, .error "no entropy", .ok ⟨List.replicate 32 two⟩]

theorem sampleStreams_alike : RandomStream.Alike sample.settings.secretLength.toNat
    (sampleStream 7 8) (sampleStream 9 10) where
  places := .cons (.ok ⟨rfl, rfl⟩) (.cons (.error _) (.cons (.ok ⟨rfl, rfl⟩) .nil))
  distinct := by decide
  also := by decide

/-- A token is presented while the store is in trouble and once more after that, and then it is revoked.
Its subject does not get another one, first for want of entropy and then since nobody waits for it. -/
def sampleSteps : List Step := [
  .issue none "ann" .readAccount .never,
  .meet { get := [.failing (.unavailable "down")], claim := [.late (Span.ofMillis 20)] },
  .verify 0 .readAccount .never,
  .verify 0 .readAccount .never,
  .revoke 0 .never,
  .issue none "ann" .readAccount .never,
  .wait 60000,
  .issueMany 1 none "ann" .readAccount (.during (Span.ofMillis 60010)),
  .purge,
  .verify 0 .readAccount .never]

/-- Whichever secrets are drawn, the same is seen. -/
theorem sampleStreams_seen_the_same :
    (Session.start 1000000 0).sights sample (sampleStream 7 8) sampleSteps =
      (Session.start 1000000 0).sights sample (sampleStream 9 10) sampleSteps := by
  refine secrets_show_in_tokens_only 1000000 0 sample_valid sampleStreams_alike ?_ ?_ ?_
  · simp [sampleSteps, Step.Genuine]
  · unfold Session.SignedOnce Token.SignedOnce
    decide +kernel
  · unfold Session.SignedOnce Token.SignedOnce
    decide +kernel

end Authority
end Signet
