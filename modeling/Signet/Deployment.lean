import Signet.Store.Access

/-! A deployment is what surrounds operations: a wall clock, a store with a clock of its own, random
bytes and a verifier. Store calls may meet trouble, and the wait for one ends when it is answered,
when it has taken too long or when the operation is cancelled, whichever comes first. -/

namespace Signet

/-- How a store call goes otherwise than at once. -/
inductive Trouble where
  | pass
  | failing (error : StoreError)
  /-- It is never answered. -/
  | hanging
  /-- It reaches the store only after some time. -/
  | late (span : Span)
  /-- It is answered with this secret, or none, in place of the store; a deletion is let through. -/
  | answering (secret : Option Secret)
  deriving DecidableEq, Repr

/-- How long an answer takes; none if it never comes. -/
def Trouble.wait : Trouble → Option Span
  | hanging => none
  | late span => some span
  | _ => some 0

/-- Troubles that the next calls meet, one each. -/
structure Troubles where
  get : List Trouble := []
  claim : List Trouble := []
  delete : List Trouble := []
  deriving DecidableEq, Repr

namespace Troubles

/-- The trouble that a call meets. -/
def next (troubles : Troubles) : StoreCall → Trouble
  | .get _ => troubles.get.headD .pass
  | .claim .. => troubles.claim.headD .pass
  | .delete _ => troubles.delete.headD .pass

/-- The troubles left after a call has met one. -/
def drop (troubles : Troubles) : StoreCall → Troubles
  | .get _ => { troubles with get := troubles.get.tail }
  | .claim .. => { troubles with claim := troubles.claim.tail }
  | .delete _ => { troubles with delete := troubles.delete.tail }

end Troubles

/-- What changes while a deployment runs. -/
structure Deployment (σ : Type) where
  /-- Milliseconds of the wall clock since the epoch. -/
  wall : Int
  /-- The store's clock. -/
  clock : Instant
  store : σ
  troubles : Troubles
  /-- How often random bytes have been asked for. -/
  draws : Nat
  /-- Everything reported, first report first. -/
  reports : List Log.Event

namespace Deployment

variable {σ α : Type}

/-- When an operation is cancelled. -/
inductive Cancellation where
  | never
  /-- Before it begins. -/
  | before
  /-- At a moment of the store's clock. -/
  | during (moment : Instant)
  deriving DecidableEq, Repr

/-- What does not change during an operation. -/
structure Facilities (σ : Type) where
  /-- The random bytes of a request, by its number and its length, or why it fails. -/
  random : Nat → Nat → Except String Bytes
  /-- What is said about a credential. -/
  verify : σ → Credential → Except AuthError Verification × σ
  cancellation : Cancellation

/-- The wall clock in whole seconds; before the epoch it stands at zero. -/
def now (deployment : Deployment σ) : Timestamp := UInt64.ofNat (deployment.wall / 1000).toNat

/-- Moves both clocks. -/
def advance (deployment : Deployment σ) (millis : Nat) : Deployment σ :=
  { deployment with
    wall := deployment.wall + millis
    clock := deployment.clock + Span.ofMillis millis }

/-- Adds reports. -/
def report (deployment : Deployment σ) (events : List Log.Event) : Deployment σ :=
  { deployment with reports := deployment.reports ++ events }

/-- Asks for a secret that can be laid out. A request for no bytes is none. -/
def fresh (facilities : Facilities σ) (deployment : Deployment σ) (length : Nat) :
    Except String Secret × Deployment σ :=
  if length = 0 then (.ok ⟨[]⟩, deployment)
  else
    ((facilities.random deployment.draws length).map Secret.mk,
      { deployment with draws := deployment.draws + 1 })

/-- How the wait for a store call ends. -/
inductive Ending where
  | met (trouble : Trouble)
  | timedOut
  | cancelled
  deriving DecidableEq, Repr

/-- A call that has been made: when and how the wait for it ends. -/
structure Pending where
  moment : Instant
  ending : Ending
  deriving DecidableEq, Repr

/-- The wait for a call that meets this trouble. An answer in time comes before the end of that time,
and either of them before being cancelled at the same moment. -/
def awaited (cancellation : Cancellation) (now : Instant) (within : Span) (trouble : Trouble) :
    Pending :=
  let answered := (trouble.wait.filter (· ≤ within)).map (now + ·)
  let ended : Pending :=
    match answered with
    | some moment => ⟨moment, .met trouble⟩
    | none => ⟨now + within, .timedOut⟩
  match cancellation with
  | .before => ⟨now, .cancelled⟩
  | .during moment => if moment < ended.moment then ⟨max now moment, .cancelled⟩ else ended
  | .never => ended

/-- Makes a call. If the operation was cancelled before, the call is not made and meets no trouble. -/
def start (facilities : Facilities σ) (deployment : Deployment σ) (call : StoreCall)
    (within : Span) : Pending × Deployment σ :=
  let pending := awaited facilities.cancellation deployment.clock within
    (deployment.troubles.next call)
  if facilities.cancellation = .before then (pending, deployment)
  else (pending, { deployment with troubles := deployment.troubles.drop call })

/-- The answer of a call in place of the store. A deletion has none, since its answer holds no secret. -/
def scripted (secret : Option Secret) : (call : StoreCall) → Option call.Answer
  | .get _ => some secret
  | .claim _ fresh _ => some (secret.getD fresh)
  | .delete _ => none

variable [SecretStore σ]

/-- Lets a call reach the store. -/
def reach (deployment : Deployment σ) (call : StoreCall) :
    Except AuthError call.Answer × Deployment σ :=
  let outcome := SecretStore.answer deployment.store deployment.clock call
  let answer :=
    match outcome.answer with
    | .ok answer => .ok answer
    | .error error => .error (.store error)
  (answer, ({ deployment with store := outcome.after }).report outcome.reports)

/-- Ends the wait for a call, at the moment it is over. -/
def finish (deployment : Deployment σ) (call : StoreCall) (ending : Ending) :
    Except AuthError call.Answer × Deployment σ :=
  match ending with
  | .cancelled => (.error .cancelled, deployment)
  | .timedOut => (.error .timeout, deployment)
  | .met (.failing error) => (.error (.store error), deployment)
  | .met (.answering secret) =>
    match scripted secret call with
    | some answer => (.ok answer, deployment)
    | none => deployment.reach call
  | .met _ => deployment.reach call

/-- Makes a call and waits for it. -/
def call (facilities : Facilities σ) (deployment : Deployment σ) (call : StoreCall)
    (within : Span) : Except AuthError call.Answer × Deployment σ :=
  let (pending, deployment) := deployment.start facilities call within
  ({ deployment with clock := pending.moment }).finish call pending.ending

/-- A deployment answers the queries of operations. -/
def answer (facilities : Facilities σ) : Operation.Surroundings (Deployment σ)
  | .fresh length, deployment => deployment.fresh facilities length
  | .time, deployment => (deployment.now, deployment)
  | .store call within, deployment => deployment.call facilities call within
  | .verification credential, deployment =>
    let (answer, store) := facilities.verify deployment.store credential
    (answer, { deployment with store })
  | .report event, deployment => ((), deployment.report [event])

/-- Whether a call whose wait is over has been let through to the store. -/
def Ending.reaches (call : StoreCall) : Ending → Bool
  | cancelled | timedOut | met (.failing _) => false
  | met (.answering secret) => (scripted secret call).isNone
  | met _ => true

/-- Whether whoever makes a call breaks off on the answer of the store. -/
def breaks (facilities : Facilities σ) (deployment : Deployment σ) (call : StoreCall)
    (within : Span) : Bool :=
  let (pending, deployment) := deployment.start facilities call within
  pending.ending.reaches call && SecretStore.breaks deployment.store pending.moment call

/-- A deployment responds with its answers, unless whoever asks breaks off: on a secret that is too
long to be laid out, before anything is drawn, or on an answer of the store that cannot be read on. -/
def respond (facilities : Facilities σ) : Operation.Responder (Deployment σ)
  | .fresh length, deployment =>
    if length ≤ Secret.greatestLength then
      let (drawn, deployment) := deployment.fresh facilities length
      (some drawn, deployment)
    else (none, deployment)
  | .store call within, deployment =>
    let (answer, after) := deployment.call facilities call within
    (if deployment.breaks facilities call within then none else some answer, after)
  | query, deployment =>
    let (answer, deployment) := answer facilities query deployment
    (some answer, deployment)

/-- Executes an operation, which may break off. -/
def execute (facilities : Facilities σ) (operation : Operation α) (deployment : Deployment σ) :
    Option α × Deployment σ :=
  operation.execute (respond facilities) deployment

/-- Runs an operation that does not break off. -/
def run (facilities : Facilities σ) (operation : Operation α) (deployment : Deployment σ) :
    α × Deployment σ :=
  operation.run (answer facilities) deployment

/-- Runs an operation that may fail. -/
def attempt (facilities : Facilities σ) (attempt : Attempt α) (deployment : Deployment σ) :
    Except AuthError α × Deployment σ :=
  deployment.run facilities attempt.run

/-- How far an operation among others has come: it has ended, or it goes on at some moment. -/
inductive Progress (σ α : Type) where
  | ended (value : α)
  | waiting (moment : Instant) (rest : Deployment σ → α × Deployment σ)

/-- Runs an operation up to its first wait. -/
def begin (facilities : Facilities σ) :
    Operation α → Deployment σ → Progress σ α × Deployment σ
  | .done value, deployment => (.ended value, deployment)
  | .ask (.store call within) next, deployment =>
    let (pending, deployment) := deployment.start facilities call within
    if pending.moment ≤ deployment.clock then
      let (answer, deployment) := deployment.finish call pending.ending
      begin facilities (next answer) deployment
    else
      (.waiting pending.moment fun deployment =>
        let (answer, deployment) := deployment.finish call pending.ending
        deployment.run facilities (next answer), deployment)
  | .ask query next, deployment =>
    let (answer, deployment) := answer facilities query deployment
    begin facilities (next answer) deployment

/-- Runs each operation up to its first wait. -/
def beginAll (facilities : Facilities σ) :
    List (Operation α) → Deployment σ → List (Progress σ α) × Deployment σ
  | [], deployment => ([], deployment)
  | operation :: rest, deployment =>
    let (first, deployment) := begin facilities operation deployment
    let (others, deployment) := beginAll facilities rest deployment
    (first :: others, deployment)

/-- The moment at which an operation goes on. -/
def Progress.moment? : Progress σ α → Option Instant
  | ended _ => none
  | waiting moment _ => some moment

/-- The value of an operation that has ended. -/
def Progress.value? : Progress σ α → Option α
  | ended value => some value
  | waiting .. => none

/-- Lets the first operation that waits for this moment go on. -/
def resume (moment : Instant) :
    List (Progress σ α) → Deployment σ → List (Progress σ α) × Deployment σ
  | [], deployment => ([], deployment)
  | .ended value :: rest, deployment =>
    let (rest, deployment) := resume moment rest deployment
    (.ended value :: rest, deployment)
  | .waiting awaited goOn :: rest, deployment =>
    if awaited = moment then
      let (value, deployment) := goOn { deployment with clock := max deployment.clock moment }
      (.ended value :: rest, deployment)
    else
      let (rest, deployment) := resume moment rest deployment
      (.waiting awaited goOn :: rest, deployment)

/-- Lets waiting operations go on, the one whose wait ends first before the others. -/
def resumeAll : Nat → List (Progress σ α) → Deployment σ → List (Progress σ α) × Deployment σ
  | 0, progress, deployment => (progress, deployment)
  | count + 1, progress, deployment =>
    match (progress.filterMap Progress.moment?).min? with
    | none => (progress, deployment)
    | some moment =>
      let (progress, deployment) := resume moment progress deployment
      resumeAll count progress deployment

/-- Runs operations side by side, begun in order, and answers their values in that order. Each of
them waits at most once beside the others. -/
def runAll (facilities : Facilities σ) (operations : List (Operation α))
    (deployment : Deployment σ) : List α × Deployment σ :=
  let (progress, deployment) := beginAll facilities operations deployment
  let (progress, deployment) := resumeAll operations.length progress deployment
  (progress.filterMap Progress.value?, deployment)

end Deployment
end Signet
