import Signet.Proofs.Authority.Claiming
import Signet.Proofs.Authority.Trust
import Signet.Proofs.Deployment.Run
import Signet.Proofs.Remote.Store

/-! An authority does not notice whether its store is nearby or behind a service, as long as nothing
goes wrong on the way: its operations ask the same of both and get the same answers. -/

namespace Signet

/-- Every secret that a store holds can be carried. -/
def Store.Keepable (store : Store) : Prop :=
  ∀ key entry, store.entries.find? key = some entry → entry.secret.Keepable

namespace Remote

/-- What is found under one key. -/
theorem get_cases (store : Store) (now : Instant) (key : String) :
    store.get now [key] = Dict.empty ∨ ∃ entry, store.entries.find? key = some entry ∧
      (store.get now [key]).entries = [(key, entry.secret)] := by
  cases live : store.live? now key with
  | none => exact .inl (by simp [Store.get, live, Dict.ofList])
  | some entry =>
    refine .inr ⟨entry, (Store.live?_eq_some_iff.mp live).1, ?_⟩
    simp [Store.get, live, Dict.ofList, Dict.insert, Dict.erase, Dict.keep, Dict.empty]

/-- A call of an operation whose messages can be read, if the store's secrets can be carried. -/
def Fits : StoreCall → Prop
  | .get key | .delete key => PortableNames [key]
  | .claim key fresh ttl =>
    PortableNames [key] ∧ fresh.Keepable ∧ Legible ttl

/-- A call that names no time but one that the service takes as it is. -/
def Exact : StoreCall → Prop
  | .claim _ _ ttl => Trimmed.span? ttl = some ttl
  | .get _ | .delete _ => True

variable {store : Store} {now : Instant} {call : StoreCall}

theorem carried_of_fits (keepable : store.Keepable) (fits : Fits call) :
    Carried store now (.ofCall call) := by
  cases call with
  | get key =>
    refine ⟨fits, Message.short_keys fits, ?_⟩
    rcases get_cases store now key with none | ⟨entry, found, one⟩
    · rw [none]
      exact ⟨by simp [Dict.empty], Message.short_findings_empty⟩
    · rw [one]
      refine ⟨?_, Message.short_findings fits (keepable key entry found) one⟩
      simpa using (keepable key entry found).1
  | claim key fresh ttl =>
    obtain ⟨named, carries, legible⟩ := fits
    refine ⟨carries.1, legible.written, Message.short_claiming named carries legible.written, ?_⟩
    intro entry live
    have held := keepable key entry (Store.live?_eq_some_iff.mp live).1
    exact ⟨held.1, held.short⟩
  | delete key => exact ⟨fits, Message.short_keys fits⟩

/-- Results that are the same but for the wording of a store failure. -/
def Excused {α : Type} (far near : Except AuthError α) : Prop :=
  far = near ∨ ∃ one other, far = .error (.store one) ∧ near = .error (.store other)

/-- What a call is answered with, far away and nearby. Only a claim may fail, and be told so in
other words. -/
def Agree : (call : StoreCall) → Except AuthError call.Answer → Except AuthError call.Answer → Prop
  | .claim .., far, near => Excused far near
  | .get _, far, near | .delete _, far, near => far = near

end Remote

/-- The subject that a request is about. -/
def Authority.Request.Names (subject : String) : Authority.Request → Prop
  | issue other _ | revokeSubject other => other = subject
  | verify token _ | revoke token => ∃ hint, Token.peek token = .ok hint ∧ hint.subject = subject

/-- A request to an authority, or time that passes. -/
inductive Errand where
  | request (request : Authority.Request)
  | wait (millis : Nat)

namespace Deployment

theorem reach_fst {σ : Type} [SecretStore σ] (deployment : Deployment σ) (call : StoreCall) :
    (deployment.reach call).1 =
      (SecretStore.answer deployment.store deployment.clock call).answer.mapError .store := by
  unfold reach
  dsimp only
  cases (SecretStore.answer deployment.store deployment.clock call).answer <;> rfl

/-- The answers to the requests of a session, and where it leads. -/
def session {σ : Type} [SecretStore σ] (facilities : Facilities σ) (authority : Authority) :
    List Errand → Deployment σ →
      List (Σ request : Authority.Request, Except AuthError request.Answer) × Deployment σ
  | [], deployment => ([], deployment)
  | .wait millis :: errands, deployment =>
    session facilities authority errands (deployment.advance millis)
  | .request request :: errands, deployment =>
    let (answer, deployment) := deployment.attempt facilities (authority.perform request)
    let (answers, deployment) := session facilities authority errands deployment
    (⟨request, answer⟩ :: answers, deployment)

end Deployment

namespace Remote

/-- Two deployments that differ in where the store is. -/
structure Twins (far : Deployment (Link Store)) (near : Deployment Store) : Prop where
  wall : far.wall = near.wall
  clock : far.clock = near.clock
  draws : far.draws = near.draws
  store : far.store = Link.ofStore near.store
  calm : far.troubles = {} ∧ near.troubles = {}
  keepable : near.store.Keepable

/-- A store holds what it held, or what has been offered to it. -/
theorem keepable_after (now : Instant) (access : Access) (keepable : store.Keepable)
    (offers : ∀ key secret, access.Offers key secret → secret.Keepable) :
    (access.after now store).Keepable := by
  intro key entry found
  rcases Access.origin found with ⟨old, before, same⟩ | offered
  · rw [← same]
    exact keepable key old before
  · exact offers key entry.secret offered

theorem offers_of_fits (fits : Fits call) (key : String) (secret : Secret)
    (offers : (Access.ofCall call).Offers key secret) : secret.Keepable := by
  cases call with
  | get other => exact offers.elim
  | claim other fresh ttl =>
    obtain ⟨-, rfl⟩ := offers
    exact fits.2.1
  | delete other => exact offers.elim

/-- What the service learns of a call that fits leaves secrets that can be carried, again. -/
theorem keepable_learned (keepable : store.Keepable) (fits : Fits call) :
    ((learned (.ofCall call)).outcome (Trimmed.mk store) now).after.store.Keepable := by
  cases call with
  | get key => exact keepable
  | delete key =>
    exact keepable_after now (.delete [key]) keepable fun _ _ offers => offers.elim
  | claim key fresh ttl =>
    rw [Access.ofCall, learned, Access.outcome, Outcome.after_map, Trimmed.claim_eq]
    cases Trimmed.span? (arriving ttl) with
    | none => exact keepable
    | some span =>
      exact keepable_after now (.claim key fresh span) keepable
        fun other secret offers => offers.2 ▸ fits.2.1

/-- Moves that are calls that fit can be carried from the first to the last. -/
theorem carriedAll_of_fits (clock : Instant) {moves : List Move} (keepable : store.Keepable)
    (fits : ∀ access, .use access ∈ moves → ∃ call, Fits call ∧ access = .ofCall call) :
    CarriedAll ⟨clock, ⟨store⟩⟩ moves := by
  induction moves generalizing clock store with
  | nil => trivial
  | cons move moves ih =>
    have others : ∀ access, .use access ∈ moves → ∃ call, Fits call ∧ access = .ofCall call :=
      fun access member => fits access (List.mem_cons_of_mem _ member)
    cases move with
    | wait span => exact ih (clock + span) keepable others
    | use access =>
      obtain ⟨call, fit, rfl⟩ := fits access (List.mem_cons_self ..)
      exact ⟨carried_of_fits keepable fit, ih clock (keepable_learned keepable fit) others⟩

theorem excused_of_alike {α : Type} {far near : Except StoreError α} (alike : Alike far near) :
    Excused (far.mapError AuthError.store) (near.mapError .store) := by
  cases alike with
  | ok value => exact .inl rfl
  | unavailable one other => exact .inr ⟨_, _, rfl, rfl⟩
  | protocol one other => exact .inr ⟨_, _, rfl, rfl⟩

/-- A call is answered alike, and leaves the same entries. -/
theorem agree_answer (now : Instant) (keepable : store.Keepable) (fits : Fits call)
    (taken : Exact call) :
    Agree call ((SecretStore.answer (Link.ofStore store) now call).answer.mapError .store)
      ((SecretStore.answer store now call).answer.mapError .store) ∧
    (SecretStore.answer (Link.ofStore store) now call).after =
      Link.ofStore (SecretStore.answer store now call).after := by
  have carried : Carried store now (.ofCall call) := carried_of_fits keepable fits
  cases call with
  | get key =>
    have far := get_ofStore carried
    simp only [SecretStore.answer, far]
    exact ⟨rfl, rfl⟩
  | claim key fresh ttl =>
    obtain ⟨answer, after⟩ := mirrors_claim carried
    have near : SecretStore.claim (Trimmed.mk store) now key fresh (arriving ttl) =
        Trimmed.lift (SecretStore.claim store now key fresh ttl) := by
      have taken : Trimmed.span? ttl = some ttl := taken
      rw [Trimmed.claim_eq, fits.2.2.span?_arriving, taken, Option.elim_some]
    rw [near] at answer after
    exact ⟨excused_of_alike answer, after⟩
  | delete key =>
    have far := delete_ofStore carried
    simp only [SecretStore.answer, far]
    exact ⟨rfl, rfl⟩

variable {far : Deployment (Link Store)} {near : Deployment Store}

theorem Twins.report (twins : Twins far near) (one other : List Log.Event) :
    Twins (far.report one) (near.report other) :=
  ⟨twins.wall, twins.clock, twins.draws, twins.store, twins.calm, twins.keepable⟩

theorem Twins.reach (twins : Twins far near) (fits : Fits call) (taken : Exact call) :
    Agree call (far.reach call).1 (near.reach call).1 ∧
      Twins (far.reach call).2 (near.reach call).2 := by
  obtain ⟨wall, clock, draws, store, calm, keepable⟩ := twins
  obtain ⟨answer, after⟩ := agree_answer near.clock keepable fits taken
  refine ⟨?_, wall, clock, draws, ?_, calm, ?_⟩
  · rw [Deployment.reach_fst, Deployment.reach_fst, store, clock]
    exact answer
  · show (SecretStore.answer far.store far.clock call).after =
      Link.ofStore (SecretStore.answer near.store near.clock call).after
    rw [store, clock]
    exact after
  · show (SecretStore.answer near.store near.clock call).after.Keepable
    rw [← Access.after_ofCall]
    exact keepable_after _ _ keepable (offers_of_fits fits)

/-- Queries that go the same way far away and nearby; secrets are drawn at one length. -/
def QueryFits (length : Nat) : Query → Prop
  | .fresh other => other = length
  | .store call _ => Fits call ∧ Exact call
  | .time | .report _ => True
  | .verification _ => False

/-- What a query is answered with, far away and nearby. -/
def QueryAgree : (query : Query) → query.Answer → query.Answer → Prop
  | .fresh _, far, near => far = near ∧ ∀ secret, near = .ok secret → secret.Keepable
  | .store call _, far, near => Agree call far near
  | .time, far, near | .verification _, far, near | .report _, far, near => far = near

/-- Nobody cancels anything, and secrets are drawn that can be carried, the same ones far away and
nearby. -/
structure Paired (length : Nat) (far : Deployment.Facilities (Link Store))
    (near : Deployment.Facilities Store) : Prop where
  random : far.random = near.random
  keepable : ∀ draw bytes, near.random draw length = .ok bytes → (Secret.mk bytes).Keepable
  never : far.cancellation = .never ∧ near.cancellation = .never

variable {length : Nat} {outer : Deployment.Facilities (Link Store)}
  {inner : Deployment.Facilities Store}

theorem Twins.answer (paired : Paired length outer inner) (twins : Twins far near) {query : Query}
    (fits : QueryFits length query) :
    QueryAgree query (Deployment.answer outer query far).1
        (Deployment.answer inner query near).1 ∧
      Twins (Deployment.answer outer query far).2 (Deployment.answer inner query near).2 := by
  cases query with
  | fresh other =>
    obtain rfl : other = length := fits
    obtain ⟨wall, clock, draws, store, calm, keepable⟩ := twins
    simp only [Deployment.answer, Deployment.fresh, paired.random, draws]
    split
    case isTrue none =>
      refine ⟨⟨rfl, ?_⟩, wall, clock, draws, store, calm, keepable⟩
      rintro secret same
      cases same
      exact Secret.keepable_of_length_le (Nat.zero_le _)
    case isFalse some =>
      refine ⟨⟨rfl, ?_⟩, wall, clock, rfl, store, calm, keepable⟩
      intro secret same
      cases drawn : inner.random near.draws other with
      | error reason =>
        rw [drawn] at same
        cases same
      | ok bytes =>
        rw [drawn] at same
        cases same
        exact paired.keepable _ _ drawn
  | time => exact ⟨congrArg (fun wall : Int => UInt64.ofNat (wall / 1000).toNat) twins.wall, twins⟩
  | store call within =>
    have first := Deployment.call_of_calm paired.never.1 twins.calm.1 call within
    have second := Deployment.call_of_calm paired.never.2 twins.calm.2 call within
    simp only [Deployment.answer, first, second]
    exact twins.reach fits.1 fits.2
  | verification credential => exact fits.elim
  | report event => exact ⟨rfl, twins.report [event] [event]⟩

/-- Operations that ask the same of their surroundings, but for the wording of reports, and go on in
the same way when they are answered alike. Their values are related at last. -/
inductive Parallel {α : Type} (length : Nat) (related : α → α → Prop) :
    Operation α → Operation α → Prop where
  | done {far near : α} (same : related far near) :
    Parallel length related (.done far) (.done near)
  | report {one other : Log.Event} {far near : Unit → Operation α}
    (others : Parallel length related (far ()) (near ())) :
    Parallel length related (.ask (.report one) far) (.ask (.report other) near)
  | ask {query : Query} {far near : query.Answer → Operation α} (fits : QueryFits length query)
    (others : ∀ first second, QueryAgree query first second →
      Parallel length related (far first) (near second)) :
    Parallel length related (.ask query far) (.ask query near)

/-- Parallel operations have related values in twin deployments, and leave twins behind. -/
theorem Parallel.run {α : Type} {related : α → α → Prop} {first second : Operation α}
    (parallel : Parallel length related first second) (paired : Paired length outer inner)
    (twins : Twins far near) :
    related (far.run outer first).1 (near.run inner second).1 ∧
      Twins (far.run outer first).2 (near.run inner second).2 := by
  induction parallel generalizing far near with
  | done same => exact ⟨same, twins⟩
  | @report one other _ _ _ ih =>
    exact ih (twins.report [one] [other])
  | ask fits _ ih =>
    obtain ⟨agree, later⟩ := twins.answer paired fits
    exact ih _ _ agree later

theorem Parallel.bind {α β : Type} {related : α → α → Prop} {last : β → β → Prop}
    {first second : Operation α} {far near : α → Operation β}
    (parallel : Parallel length related first second)
    (others : ∀ one other, related one other → Parallel length last (far one) (near other)) :
    Parallel length last (first >>= far) (second >>= near) := by
  show Parallel length last (first.andThen far) (second.andThen near)
  induction parallel with
  | done same => exact others _ _ same
  | report _ ih => exact .report ih
  | ask fits _ ih => exact .ask fits fun first second agree => ih first second agree

theorem Parallel.mono {α : Type} {related wider : α → α → Prop} {first second : Operation α}
    (parallel : Parallel length related first second)
    (each : ∀ one other, related one other → wider one other) :
    Parallel length wider first second := by
  induction parallel with
  | done same => exact .done (each _ _ same)
  | report _ ih => exact .report ih
  | ask fits _ ih => exact .ask fits ih

/-- Queries that are answered the same far away and nearby. -/
def Steady : Query → Prop
  | .store (.get key) _ | .store (.delete key) _ => PortableNames [key]
  | .time | .report _ => True
  | .fresh _ | .store (.claim ..) _ | .verification _ => False

theorem steady_of_quiet (query : Query) (quiet : query.Quiet) : Steady query := by
  cases query with
  | fresh length => exact quiet
  | time => trivial
  | store call within => exact quiet.elim
  | verification credential => exact quiet
  | report event => trivial

theorem Parallel.of_only {α : Type} {operation : Operation α} (only : operation.Only Steady) :
    Parallel length Eq operation operation := by
  induction operation with
  | done value => exact .done rfl
  | ask query next ih =>
    obtain ⟨steady, only⟩ := only
    have each : ∀ answer, Parallel length Eq (next answer) (next answer) :=
      fun answer => ih answer (only answer)
    cases query with
    | fresh length => exact steady.elim
    | time => exact .ask trivial fun first second same => same ▸ each first
    | store call within =>
      cases call with
      | get key => exact .ask ⟨steady, trivial⟩ fun first second same => same ▸ each first
      | claim key fresh ttl => exact steady.elim
      | delete key => exact .ask ⟨steady, trivial⟩ fun first second same => same ▸ each first
    | verification credential => exact steady.elim
    | report event => exact .report (each ())

section

variable {authority : Authority} {subject token : String} {permissions required : Permission}
  (valid : authority.Valid)
include valid

/-- Secrets are kept for whole seconds, and not for too many. -/
theorem exact_secretTtl :
    authority.settings.secretTtlSpan.toMillis ≤ Settings.greatestTtl * 1000 ∧
      Trimmed.span? authority.settings.secretTtlSpan = some authority.settings.secretTtlSpan := by
  have short := Nat.mul_le_mul_right 1000 valid.secretTtl_le
  rw [Settings.secretTtlSpan_eq_ofMillis, Trimmed.span?, toMillis_ofMillis, if_pos short]
  exact ⟨short, rfl⟩

omit valid in
private theorem excused_of_only {α : Type} (attempt : Attempt α) (only : attempt.run.Only Steady) :
    Parallel length Excused attempt.run attempt.run :=
  (Parallel.of_only only).mono fun _ _ same => .inl same

omit valid in
private theorem only_told {level : Log.Level} {message : String} {fields : List (String × String)} :
    (liftM (Operation.report level message fields) : Attempt Unit).run.Only Steady :=
  Attempt.only_report (fun _ => trivial) level message fields

theorem parallel_claimSecret (named : PortableNames [Secret.key subject]) :
    Parallel authority.settings.secretLength.toNat Excused
      (authority.claimSecret subject).run (authority.claimSecret subject).run := by
  refine .ask (show QueryFits _ (.fresh _) from rfl) ?_
  rintro first _ ⟨rfl, keepable⟩
  cases first with
  | error reason =>
    exact excused_of_only _ (Attempt.only_bind only_told fun _ => Attempt.only_throw _)
  | ok fresh =>
    have ttl := exact_secretTtl valid
    refine .ask (show QueryFits _ (.store (.claim ..) _) from
      ⟨⟨named, keepable fresh rfl, .inl ttl.1⟩, ttl.2⟩) ?_
    rintro far near (rfl | ⟨one, other, rfl, rfl⟩)
    · cases far with
      | error error => exact .done (.inl rfl)
      | ok live =>
        refine excused_of_only (do
          if live = fresh then Operation.report .debug "created secret" [("subject", subject)]
          else Operation.report .debug "renewed secret" [("subject", subject)]
          return live) ?_
        split
        · exact Attempt.only_bind only_told fun _ => Attempt.only_pure _
        · exact Attempt.only_bind only_told fun _ => Attempt.only_pure _
    · exact .done (.inr ⟨one, other, rfl, rfl⟩)

theorem parallel_issue (named : PortableNames [Secret.key subject]) :
    Parallel authority.settings.secretLength.toNat Eq
      (authority.issue subject permissions).run (authority.issue subject permissions).run := by
  by_cases anonymous : subject = ""
  · subst anonymous
    exact .done rfl
  rw [Authority.issue_eq_sign anonymous, Attempt.run_bind, Attempt.run_tryCatch]
  refine Parallel.bind (?_ : Parallel _ Eq _ _) ?_
  · refine (parallel_claimSecret valid named).bind ?_
    rintro one _ (rfl | ⟨first, second, rfl, rfl⟩)
    · cases one with
      | ok secret => exact .done rfl
      | error error =>
        exact .of_only ((Authority.issuanceFailure_quiet error).mono steady_of_quiet)
    · exact .report (.done rfl)
  · rintro claimed _ rfl
    cases claimed with
    | ok secret => exact .of_only ((Authority.sign_quiet secret).mono steady_of_quiet)
    | error error => exact .done rfl

/-- Whatever is asked for, it goes the same way far away and nearby. -/
theorem parallel_perform {request : Authority.Request}
    (named : ∀ subject, request.Names subject → PortableNames [Secret.key subject]) :
    Parallel authority.settings.secretLength.toNat Eq
      (authority.perform request).run (authority.perform request).run := by
  cases request with
  | issue subject permissions => exact parallel_issue valid (named subject rfl)
  | verify token required =>
    exact .of_only (Authority.verify_only steady_of_quiet fun hint peeked =>
      named hint.subject ⟨hint, peeked, rfl⟩)
  | revoke token =>
    have look : ∀ hint, Token.peek token = .ok hint → PortableNames [Secret.key hint.subject] :=
      fun hint peeked => named hint.subject ⟨hint, peeked, rfl⟩
    exact .of_only (Authority.revoke_only steady_of_quiet look look)
  | revokeSubject subject =>
    exact .of_only (Authority.revokeSubject_only steady_of_quiet (named subject rfl))

end

theorem Twins.advance (twins : Twins far near) (millis : Nat) :
    Twins (far.advance millis) (near.advance millis) where
  wall := congrArg (· + (millis : Int)) twins.wall
  clock := congrArg (· + Span.ofMillis millis) twins.clock
  draws := twins.draws
  store := twins.store
  calm := twins.calm
  keepable := twins.keepable

theorem Twins.session {authority : Authority} (valid : authority.Valid)
    (paired : Paired authority.settings.secretLength.toNat outer inner) {errands : List Errand}
    (named : ∀ request, .request request ∈ errands → ∀ subject, request.Names subject →
      PortableNames [Secret.key subject]) (twins : Twins far near) :
    (far.session outer authority errands).1 = (near.session inner authority errands).1 ∧
      Twins (far.session outer authority errands).2 (near.session inner authority errands).2 := by
  induction errands generalizing far near with
  | nil => exact ⟨rfl, twins⟩
  | cons errand errands ih =>
    have others : ∀ request, .request request ∈ errands → ∀ subject, request.Names subject →
        PortableNames [Secret.key subject] :=
      fun request member => named request (List.mem_cons_of_mem _ member)
    cases errand with
    | wait millis => exact ih others (twins.advance millis)
    | request request =>
      obtain ⟨answer, later⟩ :=
        (parallel_perform valid (named request (List.mem_cons_self ..))).run paired twins
      obtain ⟨answers, last⟩ := ih others later
      refine ⟨?_, last⟩
      show Sigma.mk request _ :: _ = Sigma.mk request _ :: _
      exact congr (congrArg (fun first => List.cons (Sigma.mk request first)) answer) answers

/-- A store behind its service stands for the store itself. Its uses go like what the service learns
of them; so all that is lost is the top byte of a time that needs it. No authority names such a time,
and what it answers is the same over both. -/
theorem refines_store (clock : Instant) (store : Store) (moves : List Move)
    (carried : CarriedAll ⟨clock, ⟨store⟩⟩ moves) :
    Tracks ⟨clock, Link.ofStore store⟩ ⟨clock, ⟨store⟩⟩ moves (learnedAll moves) ∧
    (LegibleAll moves → Tracks ⟨clock, Link.ofStore store⟩ ⟨clock, ⟨store⟩⟩ moves moves) ∧
    ∀ (authority : Authority) (outer : Deployment.Facilities (Link Store))
      (inner : Deployment.Facilities Store) (far : Deployment (Link Store))
      (near : Deployment Store) (errands : List Errand), authority.Valid →
      Paired authority.settings.secretLength.toNat outer inner → Twins far near →
      (∀ request, .request request ∈ errands → ∀ subject, request.Names subject →
        PortableNames [Secret.key subject]) →
      (far.session outer authority errands).1 = (near.session inner authority errands).1 ∧
        (far.session outer authority errands).2.store =
          Link.ofStore (near.session inner authority errands).2.store := by
  refine ⟨tracks_learned clock carried, tracks_of_legible clock carried, ?_⟩
  intro authority outer inner far near errands valid paired twins named
  obtain ⟨answers, later⟩ := twins.session valid paired named
  exact ⟨answers, later.store⟩

/-- A claim for five milliseconds, one for a time that nothing can wait for, and a look-up. -/
def sampleMoves : List Move :=
  [.use (.claim "b" ⟨[2]⟩ (Span.ofMillis 5)), .use (.claim "b" ⟨[3]⟩ Span.greatest),
    .wait (Span.ofMillis 4), .use (.get ["b"])]

/-- A token is issued, and verified 200 seconds later. -/
def sampleErrands : List Errand :=
  [.request (.issue "ann" .readAccount), .wait 200000,
    .request (.verify Authority.sampleToken .readAccount)]

/-- Every secret is drawn as the sample secret. -/
def sampleFacilities (σ : Type) : Deployment.Facilities σ :=
  ⟨fun _ length => .ok (List.replicate length 7), fun store _ => (.error .cancelled, store), .never⟩

theorem tracks_sampleMoves :
    Tracks ⟨0, Link.ofStore .empty⟩ ⟨0, ⟨.empty⟩⟩ sampleMoves sampleMoves ∧
    ((⟨1000000, 0, Link.ofStore .empty, {}, 0, []⟩ : Deployment (Link Store)).session
        (sampleFacilities _) .sample sampleErrands).1 =
      ((⟨1000000, 0, .empty, {}, 0, []⟩ : Deployment Store).session
        (sampleFacilities _) .sample sampleErrands).1 := by
  have few : ∀ byte : UInt8, (Secret.mk [byte]).Keepable :=
    fun byte => Secret.keepable_of_length_le (by simp [Secret.length])
  have named : PortableNames ["b"] := portableNames_of_length_le (by decide)
  have ann : PortableNames [Secret.key "ann"] := portableNames_of_length_le (by decide)
  have legible : LegibleAll sampleMoves := by
    intro access member ttl names
    simp only [sampleMoves, List.mem_cons, Move.use.injEq, reduceCtorEq, List.not_mem_nil] at member
    rcases member with rfl | rfl | none | rfl | none
    · cases names
      exact .inl (by decide)
    · cases names
      exact .inr (by decide)
    · exact none.elim
    · cases names
    · exact none.elim
  have none : Store.empty.Keepable := fun key entry found => by cases found
  have carried : CarriedAll ⟨0, ⟨.empty⟩⟩ sampleMoves := by
    refine carriedAll_of_fits 0 none fun access member => ?_
    have legible := legible access member
    simp only [sampleMoves, List.mem_cons, Move.use.injEq, reduceCtorEq, List.not_mem_nil] at member
    rcases member with rfl | rfl | none | rfl | none
    · exact ⟨.claim .., ⟨named, few 2, legible _ rfl⟩, rfl⟩
    · exact ⟨.claim .., ⟨named, few 3, legible _ rfl⟩, rfl⟩
    · exact none.elim
    · exact ⟨.get "b", named, rfl⟩
    · exact none.elim
  have paired : Paired Authority.sample.settings.secretLength.toNat (sampleFacilities (Link Store))
      (sampleFacilities Store) := by
    refine ⟨rfl, fun draw bytes drawn => ?_, rfl, rfl⟩
    cases drawn
    exact Secret.keepable_of_length_le (by decide)
  obtain ⟨-, tracks, sessions⟩ := refines_store 0 .empty sampleMoves carried
  refine ⟨tracks legible, (sessions .sample _ _ _ _ sampleErrands Authority.sample_valid paired
    ⟨rfl, rfl, rfl, rfl, ⟨rfl, rfl⟩, none⟩ ?_).1⟩
  intro request member subject about
  simp only [sampleErrands, List.mem_cons, Errand.request.injEq, reduceCtorEq,
    List.not_mem_nil] at member
  rcases member with rfl | none | rfl | none
  · obtain rfl : "ann" = subject := about
    exact ann
  · exact none.elim
  · obtain ⟨hint, peeked, rfl⟩ := about
    rw [Authority.peek_sampleToken] at peeked
    cases peeked
    exact ann
  · exact none.elim

end Remote
end Signet
