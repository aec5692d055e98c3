import Mathlib.Control.Monad.Basic
import Signet.Proofs.Deployment.Storage
import Signet.Proofs.Store.Sequence

/-! Courses of a deployment. Requests are made one after the other, each on an occasion of its own;
meanwhile calls meet troubles, others use the store, and time passes on both clocks. -/

namespace Signet

/-- What a request finds besides the deployment: the random bytes that are drawn for it, by their
number, what is said about its credential, and when it is cancelled. -/
structure Occasion where
  random : Nat → Except String Bytes
  said : Except AuthError Verification
  cancellation : Deployment.Cancellation

/-- The facilities of an occasion. Who verifies credentials leaves the store alone. -/
def Occasion.facilities (occasion : Occasion) : Deployment.Facilities Store where
  random := fun _ => occasion.random
  verify := fun store _ => (occasion.said, store)
  cancellation := occasion.cancellation

theorem Occasion.leaves (occasion : Occasion) (query : Query) :
    occasion.facilities.Leaves query := by
  cases query with
  | verification credential => exact fun _ => rfl
  | fresh length => trivial
  | time => trivial
  | store call within => trivial
  | report event => trivial

/-- These troubles, and others after them. -/
def Troubles.followedBy (troubles others : Troubles) : Troubles where
  get := troubles.get ++ others.get
  claim := troubles.claim ++ others.claim
  delete := troubles.delete ++ others.delete

/-- What happens to a deployment where such requests are made. -/
inductive Turn (ρ : Type) where
  | ask (request : ρ) (occasion : Occasion)
  /-- Calls will meet these troubles, after those that they are to meet already. -/
  | meet (troubles : Troubles)
  /-- The store is used, but not by a request. -/
  | use (access : Access)
  | wait (millis : Nat)

/-- Nothing goes wrong in a turn. -/
def Turn.Smooth {ρ : Type} : Turn ρ → Prop
  | ask _ occasion => occasion.cancellation = .never
  | meet _ => False
  | use _ | wait _ => True

theorem Turn.smooth_wait {ρ : Type} (millis : Nat) :
    ∀ turn ∈ [(.wait millis : Turn ρ)], turn.Smooth := by
  intro turn member
  obtain rfl := List.mem_singleton.mp member
  trivial

/-- A request and what it was answered with. -/
structure Answered {ρ : Type} (α : ρ → Type) where
  request : ρ
  occasion : Occasion
  answer : α request

namespace Deployment

section

variable {ρ : Type} {α : ρ → Type} (serve : (request : ρ) → Operation (α request))

/-- The deployment after a turn. -/
def afterTurn (deployment : Deployment Store) : Turn ρ → Deployment Store
  | .ask request occasion => (deployment.run occasion.facilities (serve request)).2
  | .meet troubles => { deployment with troubles := deployment.troubles.followedBy troubles }
  | .use access =>
    let outcome := access.outcome deployment.store deployment.clock
    ({ deployment with store := outcome.after }).report outcome.reports
  | .wait millis => deployment.advance millis

/-- What is answered in a turn. -/
def answered? (deployment : Deployment Store) : Turn ρ → Option (Answered α)
  | .ask request occasion =>
    some ⟨request, occasion, (deployment.run occasion.facilities (serve request)).1⟩
  | .meet _ | .use _ | .wait _ => none

/-- The deployment after some turns. -/
def after (deployment : Deployment Store) (turns : List (Turn ρ)) : Deployment Store :=
  turns.foldl (afterTurn serve) deployment

/-- What is answered in some turns. -/
def answers : Deployment Store → List (Turn ρ) → List (Answered α)
  | _, [] => []
  | deployment, turn :: turns =>
    (deployment.answered? serve turn).toList ++ (deployment.afterTurn serve turn).answers turns

@[simp] theorem answers_nil (deployment : Deployment Store) :
    deployment.answers serve ([] : List (Turn ρ)) = [] := rfl

@[simp] theorem answers_ask (deployment : Deployment Store) (request : ρ) (occasion : Occasion)
    (turns : List (Turn ρ)) : deployment.answers serve (.ask request occasion :: turns) =
      ⟨request, occasion, (deployment.run occasion.facilities (serve request)).1⟩ ::
        (deployment.run occasion.facilities (serve request)).2.answers serve turns := rfl

/-- How the store is used in a turn. -/
def uses (deployment : Deployment Store) : Turn ρ → List Access
  | .ask request occasion =>
    ((serve request).path (answer occasion.facilities) deployment).filterMap (·.query.access?)
  | .use access => [access]
  | .meet _ | .wait _ => []

/-- In no turn is a key written whatever is there, or dropped. -/
def Spares (key : String) : Deployment Store → List (Turn ρ) → Prop
  | _, [] => True
  | deployment, turn :: turns => (∀ access ∈ deployment.uses serve turn, access.Spares key) ∧
      (deployment.afterTurn serve turn).Spares key turns

theorem spares_wait {serve : (request : ρ) → Operation (α request)} {deployment : Deployment Store}
    {key : String} (millis : Nat) : deployment.Spares serve key [.wait millis] := by
  refine ⟨?_, trivial⟩
  intro access member
  cases member

/-- Every answer ends a path that its operation takes in the deployment as it is then. -/
theorem yields_of_mem {each : Answered α} {turns : List (Turn ρ)} {deployment : Deployment Store}
    (member : each ∈ deployment.answers serve turns) : ∃ later : Deployment Store,
      (serve each.request).Yields
        ((serve each.request).path (answer each.occasion.facilities) later) each.answer := by
  induction turns generalizing deployment with
  | nil => cases member
  | cons turn turns ih =>
    rcases List.mem_append.mp member with first | others
    · cases turn with
      | ask request occasion =>
        obtain rfl := List.mem_singleton.mp first
        exact ⟨deployment, (serve request).yields_path _ deployment⟩
      | meet troubles => cases first
      | use access => cases first
      | wait millis => cases first
    · exact ih others

end

theorem Genuine.followedBy {deployment : Deployment Store} {troubles : Troubles}
    (genuine : deployment.Genuine)
    (also : ∀ trouble ∈ troubles.get ++ troubles.claim ++ troubles.delete,
      ∀ secret, trouble ≠ .answering secret) :
    { deployment with troubles := deployment.troubles.followedBy troubles }.Genuine := by
  intro trouble member
  have either : trouble ∈ deployment.troubles.get ++ deployment.troubles.claim ++
      deployment.troubles.delete ∨ trouble ∈ troubles.get ++ troubles.claim ++ troubles.delete := by
    simp only [Troubles.followedBy, List.mem_append] at member ⊢
    grind
  rcases either with before | behind
  · exact genuine trouble before
  · exact also trouble behind

theorem store_afterTurn_use {ρ : Type} {α : ρ → Type}
    (serve : (request : ρ) → Operation (α request)) (deployment : Deployment Store)
    (access : Access) : (deployment.afterTurn serve (.use access)).store =
      access.after deployment.clock deployment.store :=
  Access.after_outcome ..

/-- Both clocks have gone on for so long, and no troubles have come up. -/
structure Elapsed (millis : Nat) (before after : Deployment Store) : Prop where
  wall : after.wall = before.wall + millis
  clock : after.clock = before.clock + Span.ofMillis millis
  calm : after.troubles = {}

namespace Elapsed

variable {first second : Nat} {before middle after : Deployment Store}

theorem refl (calm : before.troubles = {}) : Elapsed 0 before before :=
  ⟨(Int.add_zero _).symm, (Nat.add_zero _).symm, calm⟩

theorem trans (early : Elapsed first before middle) (late : Elapsed second middle after) :
    Elapsed (first + second) before after where
  wall := by
    rw [late.wall, early.wall]
    push_cast
    omega
  clock := by
    rw [late.clock, early.clock, Nat.add_assoc]
    exact congrArg (before.clock + ·) (Nat.add_mul first second Span.millisecond).symm
  calm := late.calm

end Elapsed

section

variable {facilities : Facilities Store} {deployment : Deployment Store}

/-- Where nothing goes wrong, a call is answered by the store as it is. -/
theorem answer_of_calm (never : facilities.cancellation = .never)
    (calm : deployment.troubles = {}) (call : StoreCall) (within : Span) :
    (answer facilities (.store call within) deployment).1 = deployment.world.answer call ∧
      (answer facilities (.store call within) deployment).2.store =
        (Access.ofCall call).after deployment.clock deployment.store := by
  have reached : answer facilities (.store call within) deployment = deployment.reach call :=
    call_of_calm never calm call within
  rw [reached, Access.after_ofCall]
  exact ⟨rfl, rfl⟩

theorem elapsed_answer (never : facilities.cancellation = .never)
    (calm : deployment.troubles = {}) (query : Query) :
    Elapsed 0 deployment (answer facilities query deployment).2 := by
  have still := Elapsed.refl calm
  rcases query.uses_or_not with ⟨call, within, rfl⟩ | unused
  · have reached : answer facilities (.store call within) deployment = deployment.reach call :=
      call_of_calm never calm call within
    rw [reached]
    exact ⟨still.wall, still.clock, still.calm⟩
  · obtain ⟨wall, clock, troubles⟩ : (answer facilities query deployment).2.wall = _ ∧ _ :=
      answer_of_unused unused
    exact ⟨wall.trans still.wall, clock.trans still.clock, troubles.trans calm⟩

/-- Where nothing goes wrong, an operation takes no time. -/
theorem elapsed_run {α : Type} (never : facilities.cancellation = .never)
    (calm : deployment.troubles = {}) (operation : Operation α) :
    Elapsed 0 deployment (deployment.run facilities operation).2 := by
  induction operation generalizing deployment with
  | done value => exact .refl calm
  | ask query next ih =>
    have first := elapsed_answer never calm query
    exact first.trans (ih _ first.calm)

end

section

variable {ρ : Type} {α : ρ → Type} {serve : (request : ρ) → Operation (α request)}
  {deployment : Deployment Store}

theorem elapsed_turn {turn : Turn ρ} (smooth : turn.Smooth) (calm : deployment.troubles = {}) :
    ∃ millis, Elapsed millis deployment (deployment.afterTurn serve turn) := by
  cases turn with
  | ask request occasion =>
    have never : occasion.facilities.cancellation = .never := smooth
    exact ⟨0, elapsed_run never calm _⟩
  | meet troubles => exact smooth.elim
  | use access =>
    have still := Elapsed.refl calm
    exact ⟨0, still.wall, still.clock, still.calm⟩
  | wait millis => exact ⟨millis, rfl, rfl, calm⟩

/-- Where nothing goes wrong, the clocks go together. -/
theorem elapsed_after {turns : List (Turn ρ)} (smooth : ∀ turn ∈ turns, turn.Smooth)
    (calm : deployment.troubles = {}) :
    ∃ millis, Elapsed millis deployment (deployment.after serve turns) := by
  induction turns generalizing deployment with
  | nil => exact ⟨0, .refl calm⟩
  | cons turn turns ih =>
    have begun : ∃ millis, Elapsed millis deployment (deployment.afterTurn serve turn) :=
      elapsed_turn (smooth turn (List.mem_cons_self ..)) calm
    obtain ⟨first, early⟩ := begun
    have others : ∀ turn ∈ turns, turn.Smooth := by
      intro turn member
      exact smooth turn (List.mem_cons_of_mem _ member)
    obtain ⟨second, late⟩ := ih others early.calm
    exact ⟨first + second, early.trans late⟩

end

/-- Whoever reads the clock of the wall during an operation finds the time at which it was begun. -/
theorem time_of_mem_path {σ : Type} [SecretStore σ] {facilities : Facilities σ} {α : Type}
    {operation : Operation α} {deployment : Deployment σ} {moment : Timestamp}
    (member : ⟨.time, moment⟩ ∈ operation.path (answer facilities) deployment) :
    moment = deployment.now := by
  have stays : ∀ query (later : Deployment σ), later.wall = deployment.wall →
      (answer facilities query later).2.wall = deployment.wall :=
    fun query later stood => (wall_answer query).trans stood
  obtain ⟨later, stood, read⟩ :=
    Operation.answered_of_mem_path (·.wall = deployment.wall) stays rfl member
  have told : moment = later.now := read
  rw [told, now, now, stood]

theorem wall_run {σ : Type} [SecretStore σ] {facilities : Facilities σ} {α : Type}
    (operation : Operation α) (deployment : Deployment σ) :
    (deployment.run facilities operation).2.wall = deployment.wall := by
  induction operation generalizing deployment with
  | done value => rfl
  | ask query next ih =>
    have stood : (answer facilities query deployment).2.wall = deployment.wall := wall_answer query
    exact (ih _ _).trans stood

/-- The clock of the wall is never set back. -/
theorem wall_le_after {ρ : Type} {α : ρ → Type} {serve : (request : ρ) → Operation (α request)}
    (deployment : Deployment Store) (turns : List (Turn ρ)) :
    deployment.wall ≤ (deployment.after serve turns).wall := by
  induction turns generalizing deployment with
  | nil => exact Int.le_refl _
  | cons turn turns ih =>
    refine Int.le_trans ?_ (ih (deployment.afterTurn serve turn))
    cases turn with
    | ask request occasion => exact Int.le_of_eq (wall_run (serve request) deployment).symm
    | meet troubles => exact Int.le_refl _
    | use access => exact Int.le_refl _
    | wait millis => exact Int.le_add_of_nonneg_right (Int.natCast_nonneg millis)

/-- Where nothing goes wrong, what writes nothing finds everything again as it was. -/
theorem still_run {facilities : Facilities Store} {α : Type} {operation : Operation α}
    {deployment : Deployment Store} (never : facilities.cancellation = .never)
    (calm : deployment.troubles = {}) (apart : operation.Only Query.Apart)
    (silent : operation.Only (¬ ·.Writes)) :
    (deployment.run facilities operation).2.world = deployment.world ∧
      (deployment.run facilities operation).2.now = deployment.now ∧
      (deployment.run facilities operation).2.troubles = {} := by
  have elapsed := elapsed_run never calm operation
  have clock : (deployment.run facilities operation).2.clock = deployment.clock := by
    simpa [Span.ofMillis] using elapsed.clock
  have wall : (deployment.run facilities operation).2.wall = deployment.wall := by
    simpa using elapsed.wall
  have store : (deployment.run facilities operation).2.store = deployment.store := by
    apply store_run apart
    intro exchange member writes
    exact absurd writes (silent.of_mem (operation.yields_path _ deployment) exchange member)
  exact ⟨by rw [world, clock, store]; rfl, by rw [now, wall]; rfl, elapsed.calm⟩

/-- Secrets are drawn as the occasion has it. -/
theorem fresh_of_mem_path {occasion : Occasion} {α : Type} {operation : Operation α}
    {deployment : Deployment Store} {length : Nat} {answer : Except String Secret}
    (member : ⟨.fresh length, answer⟩ ∈
      operation.path (Deployment.answer occasion.facilities) deployment) :
    answer = if length = 0 then .ok ⟨[]⟩ else (occasion.random length).map Secret.mk := by
  obtain ⟨later, -, answered⟩ :=
    Operation.answered_of_mem_path (fun _ => True) (fun _ _ => id) trivial member
  have drawn : answer = (fresh occasion.facilities later length).1 := answered
  rw [drawn, fresh]
  split
  · rfl
  · rfl

/-- Secrets are drawn at the length that is asked for. -/
theorem length_of_mem_path {occasion : Occasion} {α : Type} {operation : Operation α}
    {deployment : Deployment Store}
    (fair : ∀ length bytes, occasion.random length = .ok bytes → bytes.length = length)
    {length : Nat} {secret : Secret} (member : ⟨.fresh length, .ok secret⟩ ∈
      operation.path (answer occasion.facilities) deployment) : secret.length = length := by
  have drawn := fresh_of_mem_path member
  split at drawn
  case isTrue none =>
    cases drawn
    exact none.symm
  case isFalse =>
    cases bytes : occasion.random length with
    | error reason =>
      rw [bytes] at drawn
      cases drawn
    | ok found =>
      rw [bytes] at drawn
      cases drawn
      exact fair length found bytes

/-- Where nothing goes wrong, a call on the way of an operation is answered by some store at the time
at which the operation began. -/
theorem answered_of_calm {facilities : Facilities Store} {α : Type} {operation : Operation α}
    {deployment : Deployment Store} (never : facilities.cancellation = .never)
    (calm : deployment.troubles = {}) {call : StoreCall} {within : Span}
    {told : Except AuthError call.Answer}
    (member : ⟨.store call within, told⟩ ∈ operation.path (answer facilities) deployment) :
    ∃ store, told = World.answer ⟨deployment.clock, store⟩ call := by
  obtain ⟨later, elapsed, answered⟩ := Operation.answered_of_mem_path (Elapsed 0 deployment)
    (fun query _ elapsed => elapsed.trans (elapsed_answer never elapsed.calm query)) (.refl calm)
    member
  have clock : later.clock = deployment.clock := by simpa [Span.ofMillis] using elapsed.clock
  refine ⟨later.store, ?_⟩
  rw [← clock]
  exact answered.trans (answer_of_calm never elapsed.calm call within).1

/-- Nobody but the verifier says anything about credentials. -/
theorem said_of_mem_path {occasion : Occasion} {α : Type} {operation : Operation α}
    {deployment : Deployment Store} {credential : Credential}
    {said : Except AuthError Verification} (member : ⟨.verification credential, said⟩ ∈
      operation.path (answer occasion.facilities) deployment) : said = occasion.said := by
  obtain ⟨later, -, answered⟩ :=
    Operation.answered_of_mem_path (fun _ => True) (fun _ _ => id) trivial member
  exact answered

theorem held_answer {facilities : Facilities Store} {deployment : Deployment Store} {query : Query}
    {key : String} {secret : Secret} (never : facilities.cancellation = .never)
    (calm : deployment.troubles = {}) (leaves : facilities.Leaves query)
    (held : (answer facilities query deployment).2.world.held key = some secret) :
    deployment.world.held key = some secret ∨
      ∃ access, query.access? = some access ∧ access.Offers key secret := by
  have clock : (answer facilities query deployment).2.clock = deployment.clock := by
    simpa [Span.ofMillis] using (elapsed_answer never calm query).clock
  rcases query.uses_or_not with ⟨call, within, rfl⟩ | unused
  · have world : (answer facilities (.store call within) deployment).2.world =
        deployment.world.use (.ofCall call) := by
      rw [Deployment.world, (answer_of_calm never calm call within).2, clock]
      rfl
    rw [world] at held
    rcases World.held_use held with before | offers
    · exact .inl before
    · exact .inr ⟨_, rfl, offers⟩
  · rw [Deployment.world, clock, store_answer_of_unused leaves unused] at held
    exact .inl held

/-- What is visible after an operation where nothing goes wrong was visible before, or the operation
has offered it. -/
theorem held_run {facilities : Facilities Store} {α : Type} {operation : Operation α}
    {deployment : Deployment Store} {key : String} {secret : Secret}
    (never : facilities.cancellation = .never) (calm : deployment.troubles = {})
    (leaves : operation.Only facilities.Leaves)
    (held : (deployment.run facilities operation).2.world.held key = some secret) :
    deployment.world.held key = some secret ∨
      ∃ exchange ∈ operation.path (answer facilities) deployment,
        ∃ access, exchange.query.access? = some access ∧ access.Offers key secret := by
  induction operation generalizing deployment with
  | done value => exact .inl held
  | ask query next ih =>
    have first := elapsed_answer never calm query
    rcases ih _ first.calm (leaves.2 _) held with before | ⟨exchange, member, offered⟩
    · rcases held_answer never calm leaves.1 before with start | offered
      · exact .inl start
      · exact .inr ⟨_, List.mem_cons_self .., offered⟩
    · exact .inr ⟨exchange, List.mem_cons_of_mem _ member, offered⟩

/-- A secret that has been claimed stays from then on for its time. -/
theorem keeps_of_claim {facilities : Facilities Store} {α : Type} {operation : Operation α}
    {deployment : Deployment Store} {key : String} {fresh secret : Secret} {ttl within : Span}
    (never : facilities.cancellation = .never) (calm : deployment.troubles = {})
    (apart : operation.Only Query.Apart) (full : fresh.isEmpty = false)
    (spares : ∀ exchange ∈ operation.path (answer facilities) deployment,
      ∀ access, exchange.query.access? = some access → access.Spares key)
    (member : ⟨.store (.claim key fresh ttl) within, .ok secret⟩ ∈
      operation.path (answer facilities) deployment) : secret.isEmpty = false ∧
      (deployment.run facilities operation).2.world.Keeps key secret (deployment.clock + ttl) := by
  induction operation generalizing deployment with
  | done value => cases member
  | ask query next ih =>
    have first := elapsed_answer never calm query
    have others : ∀ exchange ∈ (next (answer facilities query deployment).1).path
        (answer facilities) (answer facilities query deployment).2,
        ∀ access, exchange.query.access? = some access → access.Spares key :=
      fun exchange later => spares exchange (List.mem_cons_of_mem _ later)
    rcases List.mem_cons.mp member with same | later
    · cases query with
      | store call within =>
        injection same with queries answers
        cases queries
        obtain ⟨told, left⟩ := answer_of_calm never calm (.claim key fresh ttl) within
        have answered : deployment.world.answer (.claim key fresh ttl) = .ok secret :=
          told.symm.trans (eq_of_heq answers).symm
        obtain ⟨full, keeps⟩ := World.keeps_claimed full answered
        have world : (answer facilities (.store (.claim key fresh ttl) within) deployment).2.world =
            deployment.world.use (.claim key fresh ttl) := by
          rw [Deployment.world, left, first.clock]
          rfl
        rw [← world] at keeps
        have kept := keeps_run ((apart.2 _).mono fun _ => leaves_of_apart) full others keeps
        exact ⟨full, kept⟩
      | fresh length => cases same
      | time => cases same
      | verification credential => cases same
      | report event => cases same
    · have kept := ih _ first.calm (apart.2 _) others later
      rwa [first.clock] at kept

section

variable {ρ : Type} {α : ρ → Type} {serve : (request : ρ) → Operation (α request)}
  {deployment : Deployment Store} {key : String} {secret : Secret} {deadline : Instant}

theorem keeps_turn {turn : Turn ρ} (full : secret.isEmpty = false)
    (spares : ∀ access ∈ deployment.uses serve turn, access.Spares key)
    (keeps : deployment.world.Keeps key secret deadline) :
    (deployment.afterTurn serve turn).world.Keeps key secret deadline := by
  cases turn with
  | ask request occasion =>
    apply keeps_run (Operation.only_of_forall occasion.leaves _) full _ keeps
    intro exchange member access used
    exact spares access (List.mem_filterMap.mpr ⟨exchange, member, used⟩)
  | meet troubles => exact keeps
  | use access =>
    have spared : (Event.direct access).Spares key := by
      intro other used
      cases used
      exact spares access (List.mem_singleton.mpr rfl)
    have world : (deployment.afterTurn serve (.use access)).world = deployment.world.use access :=
      congrArg (World.mk _) (store_afterTurn_use serve deployment access)
    rw [world]
    exact keeps.step full spared
  | wait millis =>
    intro early
    exact keeps (Nat.lt_of_le_of_lt (Nat.le_add_right ..) early)

/-- While nobody drops a secret or writes over it, it stays. -/
theorem keeps_after {turns : List (Turn ρ)} (full : secret.isEmpty = false) (spares : deployment.Spares serve key turns)
    (keeps : deployment.world.Keeps key secret deadline) :
    (deployment.after serve turns).world.Keeps key secret deadline := by
  induction turns generalizing deployment with
  | nil => exact keeps
  | cons turn turns ih => exact ih spares.2 (keeps_turn full spares.1 keeps)

/-- Under a key, there is a visible secret before the first turn and after each of them. -/
def Visible (serve : (request : ρ) → Operation (α request)) (key : String) :
    Deployment Store → List (Turn ρ) → Prop
  | deployment, [] => deployment.world.held key ≠ none
  | deployment, turn :: turns => deployment.world.held key ≠ none ∧
      (deployment.afterTurn serve turn).Visible serve key turns

theorem Visible.held_ne_none {turns : List (Turn ρ)} (visible : deployment.Visible serve key turns) :
    deployment.world.held key ≠ none := by
  cases turns with
  | nil => exact visible
  | cons turn turns => exact visible.1

/-- While nobody drops a secret or writes over it, only time can hide it. -/
theorem held_turn {turn : Turn ρ} (smooth : turn.Smooth) (calm : deployment.troubles = {})
    (spares : ∀ access ∈ deployment.uses serve turn, access.Spares key)
    (held : deployment.world.held key = some secret)
    (visible : (deployment.afterTurn serve turn).world.held key ≠ none) :
    (deployment.afterTurn serve turn).world.held key = some secret := by
  have full := World.held_full held
  obtain ⟨deadline, early, keeps⟩ := World.keeps_of_held held
  have kept : (deployment.afterTurn serve turn).world.Keeps key secret deadline :=
    keeps_turn full spares keeps
  cases turn with
  | ask request occasion =>
    have never : occasion.facilities.cancellation = .never := smooth
    have elapsed := elapsed_run never calm (serve request)
    have clock : (deployment.run occasion.facilities (serve request)).2.clock =
        deployment.clock := by simpa [Span.ofMillis] using elapsed.clock
    exact kept.held full (Nat.lt_of_le_of_lt (Nat.le_of_eq clock) early)
  | meet troubles => exact smooth.elim
  | use access => exact kept.held full early
  | wait millis => exact World.held_later held visible

/-- While nobody drops a secret or writes over it, it stays as long as one is visible. -/
theorem held_after {turns : List (Turn ρ)} (smooth : ∀ turn ∈ turns, turn.Smooth)
    (calm : deployment.troubles = {})
    (spares : deployment.Spares serve key turns) (visible : deployment.Visible serve key turns)
    (held : deployment.world.held key = some secret) :
    (deployment.after serve turns).world.held key = some secret := by
  induction turns generalizing deployment with
  | nil => exact held
  | cons turn turns ih =>
    have first : turn.Smooth := smooth turn (List.mem_cons_self ..)
    have begun : ∃ millis, Elapsed millis deployment (deployment.afterTurn serve turn) :=
      elapsed_turn first calm
    obtain ⟨millis, elapsed⟩ := begun
    have stays : (deployment.afterTurn serve turn).world.held key = some secret :=
      held_turn first calm spares.1 held visible.2.held_ne_none
    exact ih (fun later member => smooth later (List.mem_cons_of_mem _ member)) elapsed.calm
      spares.2 visible.2 stays

/-- What is visible after a turn where nothing goes wrong was visible before, or has been offered. -/
theorem held_turn_cases {turn : Turn ρ} (smooth : turn.Smooth) (calm : deployment.troubles = {})
    (held : (deployment.afterTurn serve turn).world.held key = some secret) :
    deployment.world.held key = some secret ∨
      ∃ access ∈ deployment.uses serve turn, access.Offers key secret := by
  cases turn with
  | ask request occasion =>
    have never : occasion.facilities.cancellation = .never := smooth
    rcases held_run never calm (Operation.only_of_forall occasion.leaves _) held with
      before | ⟨exchange, member, access, used, offers⟩
    · exact .inl before
    · exact .inr ⟨access, List.mem_filterMap.mpr ⟨exchange, member, used⟩, offers⟩
  | meet troubles => exact smooth.elim
  | use access =>
    have world : (deployment.afterTurn serve (.use access)).world = deployment.world.use access :=
      congrArg (World.mk _) (store_afterTurn_use serve deployment access)
    rw [world] at held
    rcases World.held_use held with before | offers
    · exact .inl before
    · exact .inr ⟨access, List.mem_singleton.mpr rfl, offers⟩
  | wait millis => exact .inl (World.held_earlier (Nat.le_add_right ..) held)

/-- Every use of the store in some turns is of this kind. -/
def EachUse (serve : (request : ρ) → Operation (α request)) (kind : Access → Prop) :
    Deployment Store → List (Turn ρ) → Prop
  | _, [] => True
  | deployment, turn :: turns => (∀ access ∈ deployment.uses serve turn, kind access) ∧
      (deployment.afterTurn serve turn).EachUse serve kind turns

/-- Where nothing goes wrong and only such secrets are offered, only such secrets become visible. -/
theorem held_of_eachUse {turns : List (Turn ρ)} {good : Secret → Prop}
    (smooth : ∀ turn ∈ turns, turn.Smooth) (calm : deployment.troubles = {})
    (uses : deployment.EachUse serve (fun access => ∀ secret, access.Offers key secret → good secret)
      turns)
    (begun : ∀ secret, deployment.world.held key = some secret → good secret)
    (held : (deployment.after serve turns).world.held key = some secret) : good secret := by
  induction turns generalizing deployment with
  | nil => exact begun secret held
  | cons turn turns ih =>
    have first : turn.Smooth := smooth turn (List.mem_cons_self ..)
    have elapsed : ∃ millis, Elapsed millis deployment (deployment.afterTurn serve turn) :=
      elapsed_turn first calm
    obtain ⟨millis, elapsed⟩ := elapsed
    have next : ∀ secret, (deployment.afterTurn serve turn).world.held key = some secret →
        good secret := by
      intro secret held
      rcases held_turn_cases first calm held with before | ⟨access, used, offers⟩
      · exact begun secret before
      · exact uses.1 access used secret offers
    exact ih (fun later member => smooth later (List.mem_cons_of_mem _ member)) elapsed.calm uses.2
      next held

end

/-- A deployment at second 1000 with an empty store. -/
def sampleStart : Deployment Store := ⟨1000000, 0, Store.empty, {}, 0, []⟩

end Deployment

/-- All random bytes are this one, nothing is said about credentials, and nothing is cancelled. -/
def sampleOccasion (byte : UInt8) : Occasion :=
  ⟨fun length => .ok (List.replicate length byte), .error .timeout, .never⟩

theorem sampleOccasion_fair (byte : UInt8) : ∀ length bytes,
    (sampleOccasion byte).random length = .ok bytes → bytes.length = length := by
  intro length bytes drawn
  obtain rfl := Except.ok.inj drawn
  exact List.length_replicate

end Signet
