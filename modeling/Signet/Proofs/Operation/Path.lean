import Signet.Operation

/-! The paths of an operation: which queries it asks one after the other, and what they are answered
with. An operation made of parts follows the paths of its parts. -/

namespace Signet

/-- A query and what it was answered with. -/
structure Exchange where
  query : Query
  answer : query.Answer

namespace Operation

variable {α β σ : Type}

/-- What is left of an operation after some exchanges. -/
inductive Follows : Operation α → List Exchange → Operation α → Prop where
  | here (operation : Operation α) : Follows operation [] operation
  | ask {query : Query} {next : query.Answer → Operation α} {answer : query.Answer}
      {exchanges : List Exchange} {rest : Operation α}
      (others : Follows (next answer) exchanges rest) :
      Follows (.ask query next) (⟨query, answer⟩ :: exchanges) rest

theorem Follows.append {first middle last : Operation α} {front back : List Exchange}
    (before : first.Follows front middle) (behind : middle.Follows back last) :
    first.Follows (front ++ back) last := by
  induction before with
  | here operation => exact behind
  | ask others ih => exact .ask (ih behind)

/-- Whoever has come some way has come every part of it. -/
theorem Follows.exists_of_append {operation last : Operation α} (front back : List Exchange)
    (follows : operation.Follows (front ++ back) last) :
    ∃ middle, operation.Follows front middle := by
  induction front generalizing operation with
  | nil => exact ⟨operation, .here operation⟩
  | cons exchange front ih =>
    cases follows with
    | ask others =>
      obtain ⟨middle, before⟩ := ih others
      exact ⟨middle, .ask before⟩

/-- The operation ends with this value after some exchanges. -/
def Yields (operation : Operation α) (exchanges : List Exchange) (value : α) : Prop :=
  Follows operation exchanges (.done value)

theorem yields_pure_iff {value result : α} {exchanges : List Exchange} :
    (pure value : Operation α).Yields exchanges result ↔ exchanges = [] ∧ value = result := by
  constructor
  · intro yields
    cases yields
    exact ⟨rfl, rfl⟩
  · rintro ⟨rfl, rfl⟩
    exact .here _

theorem yields_ask_iff {query : Query} {next : query.Answer → Operation α}
    {exchanges : List Exchange} {value : α} :
    (ask query next).Yields exchanges value ↔
      ∃ answer others, exchanges = ⟨query, answer⟩ :: others ∧
        (next answer).Yields others value := by
  constructor
  · intro yields
    cases yields with
    | ask others => exact ⟨_, _, rfl, others⟩
  · rintro ⟨answer, others, rfl, yields⟩
    exact .ask yields

theorem yields_query_iff {query : Query} {exchanges : List Exchange} {value : query.Answer} :
    (Operation.query query).Yields exchanges value ↔ exchanges = [⟨query, value⟩] := by
  rw [Operation.query, yields_ask_iff]
  constructor
  · rintro ⟨answer, others, rfl, yields⟩
    obtain ⟨rfl, rfl⟩ := yields_pure_iff.mp yields
    rfl
  · rintro rfl
    exact ⟨value, [], rfl, .here _⟩

theorem yields_bind_iff {first : Operation α} {next : α → Operation β} {exchanges : List Exchange}
    {value : β} : (first >>= next).Yields exchanges value ↔
      ∃ front back middle, exchanges = front ++ back ∧ first.Yields front middle ∧
        (next middle).Yields back value := by
  show (first.andThen next).Yields exchanges value ↔ _
  induction first generalizing exchanges with
  | done middle =>
    constructor
    · intro yields
      exact ⟨[], exchanges, middle, rfl, .here _, yields⟩
    · rintro ⟨front, back, found, rfl, yields, others⟩
      cases yields
      exact others
  | ask query rest ih =>
    rw [andThen, yields_ask_iff]
    constructor
    · rintro ⟨answer, others, rfl, yields⟩
      obtain ⟨front, back, middle, rfl, first, second⟩ := (ih answer).mp yields
      exact ⟨⟨query, answer⟩ :: front, back, middle, rfl, .ask first, second⟩
    · rintro ⟨front, back, middle, rfl, first, second⟩
      obtain ⟨answer, others, rfl, yields⟩ := yields_ask_iff.mp first
      exact ⟨answer, others ++ back, rfl,
        (ih answer).mpr ⟨others, back, middle, rfl, yields, second⟩⟩

/-- The exchanges of an operation that runs in some surroundings. -/
def path (surroundings : Surroundings σ) : Operation α → σ → List Exchange
  | done _, _ => []
  | ask query next, state =>
    ⟨query, (surroundings query state).1⟩ ::
      (next (surroundings query state).1).path surroundings (surroundings query state).2

theorem yields_path (surroundings : Surroundings σ) (operation : Operation α) (state : σ) :
    operation.Yields (operation.path surroundings state)
      (operation.run surroundings state).1 := by
  induction operation generalizing state with
  | done value => exact .here _
  | ask query next ih => exact .ask (ih _ _)

/-- In these exchanges, the surroundings have answered one query after the other. -/
def Given (surroundings : Surroundings σ) : σ → List Exchange → Prop
  | _, [] => True
  | state, ⟨query, answer⟩ :: others => answer = (surroundings query state).1 ∧
      Given surroundings (surroundings query state).2 others

theorem given_path (surroundings : Surroundings σ) (operation : Operation α) (state : σ) :
    Given surroundings state (operation.path surroundings state) := by
  induction operation generalizing state with
  | done value => trivial
  | ask query next ih => exact ⟨rfl, ih _ _⟩

/-- Surroundings that have answered one operation on its way answer another that asks the same. -/
theorem run_of_yields {surroundings : Surroundings σ} {state : σ} {exchanges : List Exchange}
    {operation : Operation α} {value : α} (given : Given surroundings state exchanges)
    (yields : operation.Yields exchanges value) : (operation.run surroundings state).1 = value := by
  induction operation generalizing state exchanges with
  | done result => exact (yields_pure_iff.mp yields).2
  | ask query next ih =>
    obtain ⟨answer, others, rfl, later⟩ := yields_ask_iff.mp yields
    obtain ⟨rfl, given⟩ := given
    exact ih _ given later

/-- Whatever is asked on a path is answered in a state of which everything holds that answers keep. -/
theorem answered_of_mem_path {surroundings : Surroundings σ} (holds : σ → Prop)
    (kept : ∀ query state, holds state → holds (surroundings query state).2)
    {operation : Operation α} {state : σ} (begun : holds state) {exchange : Exchange}
    (member : exchange ∈ operation.path surroundings state) :
    ∃ later, holds later ∧ exchange.answer = (surroundings exchange.query later).1 := by
  induction operation generalizing state with
  | done value => cases member
  | ask query next ih =>
    rcases List.mem_cons.mp member with rfl | others
    · exact ⟨state, begun, rfl⟩
    · exact ih _ (kept query state begun) others

/-- Every path leads on to a value. -/
theorem Follows.exists_yields {operation rest : Operation α} {exchanges : List Exchange}
    (follows : operation.Follows exchanges rest) :
    ∃ later value, operation.Yields (exchanges ++ later) value := by
  induction follows with
  | here operation =>
    induction operation with
    | done value => exact ⟨[], value, .here _⟩
    | ask query next ih =>
      have answered : ∃ _ : query.Answer, True := by
        cases query with
        | fresh length => exact ⟨.error "", trivial⟩
        | time => exact ⟨0, trivial⟩
        | store call within => exact ⟨.error .timeout, trivial⟩
        | verification credential => exact ⟨.error .timeout, trivial⟩
        | report event => exact ⟨(), trivial⟩
      obtain ⟨answer, -⟩ := answered
      obtain ⟨later, value, yields⟩ := ih answer
      exact ⟨⟨query, answer⟩ :: later, value, .ask yields⟩
  | ask others ih =>
    obtain ⟨later, value, yields⟩ := ih
    exact ⟨later, value, .ask yields⟩

/-- Whatever the answers are, the operation asks nothing but such queries. -/
def Only (allowed : Query → Prop) : Operation α → Prop
  | done _ => True
  | ask query next => allowed query ∧ ∀ answer, (next answer).Only allowed

variable {allowed : Query → Prop}

theorem only_bind {first : Operation α} {next : α → Operation β} (before : first.Only allowed)
    (behind : ∀ value, (next value).Only allowed) : (first >>= next).Only allowed := by
  show (first.andThen next).Only allowed
  induction first with
  | done value => exact behind value
  | ask query rest ih => exact ⟨before.1, fun answer => ih answer (before.2 answer)⟩

theorem Only.mono {wider : Query → Prop} {operation : Operation α}
    (only : operation.Only allowed) (each : ∀ query, allowed query → wider query) :
    operation.Only wider := by
  induction operation with
  | done value => trivial
  | ask query next ih => exact ⟨each query only.1, fun answer => ih answer (only.2 answer)⟩

theorem only_of_forall (each : ∀ query, allowed query) (operation : Operation α) :
    operation.Only allowed := by
  induction operation with
  | done value => trivial
  | ask query next ih => exact ⟨each query, ih⟩

theorem only_query {query : Query} (asked : allowed query) : (Operation.query query).Only allowed :=
  ⟨asked, fun _ => trivial⟩

theorem Only.of_mem {operation rest : Operation α} {exchanges : List Exchange}
    (only : operation.Only allowed) (follows : operation.Follows exchanges rest) :
    ∀ exchange ∈ exchanges, allowed exchange.query := by
  induction follows with
  | here operation => simp
  | ask others ih =>
    intro exchange member
    rcases List.mem_cons.mp member with rfl | later
    · exact only.1
    · exact ih (only.2 _) exchange later

end Operation

namespace Attempt

open Operation (Only)

variable {α β : Type} {attempt : Attempt α} {exchanges : List Exchange}

theorem run_bind (first : Attempt α) (next : α → Attempt β) : (first >>= next).run =
    first.run >>= fun result =>
      match result with
      | .ok value => (next value).run
      | .error error => pure (.error error) := by
  show Operation.andThen _ _ = Operation.andThen _ _
  congr 1
  funext result
  cases result <;> rfl

theorem run_tryCatch (attempt : Attempt α) (handler : AuthError → Attempt α) :
    (tryCatch attempt handler).run =
      attempt.run >>= fun result =>
        match result with
        | .ok value => pure (.ok value)
        | .error error => (handler error).run := by
  show Operation.andThen _ _ = Operation.andThen _ _
  congr 1
  funext result
  cases result <;> rfl

section

variable {σ : Type} (surroundings : Operation.Surroundings σ)

theorem run_run_bind (first : Attempt α) (next : α → Attempt β) (state : σ) :
    (first >>= next).run.run surroundings state =
      match first.run.run surroundings state with
      | (.ok value, after) => (next value).run.run surroundings after
      | (.error error, after) => (.error error, after) := by
  rw [run_bind, Operation.run_bind]
  rcases first.run.run surroundings state with ⟨error | value, after⟩ <;> rfl

theorem run_run_tryCatch (attempt : Attempt α) (handler : AuthError → Attempt α) (state : σ) :
    (tryCatch attempt handler).run.run surroundings state =
      match attempt.run.run surroundings state with
      | (.ok value, after) => (.ok value, after)
      | (.error error, after) => (handler error).run.run surroundings after := by
  rw [run_tryCatch, Operation.run_bind]
  rcases attempt.run.run surroundings state with ⟨error | value, after⟩ <;> rfl

theorem run_run_lift (operation : Operation α) (state : σ) :
    (liftM operation : Attempt α).run.run surroundings state =
      (.ok (operation.run surroundings state).1, (operation.run surroundings state).2) :=
  Operation.run_bind ..

end

theorem yields_pure_iff {value result : α} : (pure value : Attempt α).run.Yields exchanges
    (.ok result) ↔ exchanges = [] ∧ value = result := by
  refine Operation.yields_pure_iff.trans ?_
  simp

theorem yields_ofResult_iff {result : Except AuthError α} {value : α} :
    (ofResult result).run.Yields exchanges (.ok value) ↔ exchanges = [] ∧ result = .ok value :=
  Operation.yields_pure_iff

theorem ofResult_ok_bind (value : α) (next : α → Attempt β) :
    (ofResult (.ok value) >>= next) = next value := rfl

/-- What cannot fail is followed by the next part. -/
theorem yields_lift_bind_iff {operation : Operation α} {next : α → Attempt β}
    {result : Except AuthError β} :
    ((liftM operation : Attempt α) >>= next).run.Yields exchanges result ↔
      ∃ front back middle, exchanges = front ++ back ∧ operation.Yields front middle ∧
        (next middle).run.Yields back result := by
  rw [run_bind, Operation.yields_bind_iff]
  constructor
  · rintro ⟨front, back, lifted, rfl, first, second⟩
    obtain ⟨before, behind, middle, rfl, asked, done⟩ := Operation.yields_bind_iff.mp first
    obtain ⟨rfl, rfl⟩ := Operation.yields_pure_iff.mp done
    exact ⟨before, back, middle, by rw [List.append_nil], asked, second⟩
  · rintro ⟨front, back, middle, rfl, asked, second⟩
    refine ⟨front, back, .ok middle, rfl, ?_, second⟩
    exact Operation.yields_bind_iff.mpr
      ⟨front, [], middle, (List.append_nil _).symm, asked, .here _⟩

theorem yields_store_iff {call : StoreCall} {within : Span}
    {answer : Except AuthError call.Answer} :
    (store call within).run.Yields exchanges answer ↔
      exchanges = [⟨.store call within, answer⟩] :=
  Operation.yields_query_iff

/-- An attempt succeeds if and only if each of its parts does. -/
theorem yields_bind_iff {first : Attempt α} {next : α → Attempt β} {value : β} :
    (first >>= next).run.Yields exchanges (.ok value) ↔
      ∃ front back middle, exchanges = front ++ back ∧ first.run.Yields front (.ok middle) ∧
        (next middle).run.Yields back (.ok value) := by
  rw [run_bind, Operation.yields_bind_iff]
  constructor
  · rintro ⟨front, back, result, rfl, yields, others⟩
    cases result with
    | error error =>
      obtain ⟨-, same⟩ := Operation.yields_pure_iff.mp others
      cases same
    | ok middle => exact ⟨front, back, middle, rfl, yields, others⟩
  · rintro ⟨front, back, middle, rfl, yields, others⟩
    exact ⟨front, back, .ok middle, rfl, yields, others⟩

/-- A handler that always fails makes no attempt succeed. -/
theorem yields_tryCatch_iff {handler : AuthError → Attempt α} {value : α}
    (fails : ∀ error exchanges value, ¬ (handler error).run.Yields exchanges (.ok value)) :
    (tryCatch attempt handler).run.Yields exchanges (.ok value) ↔
      attempt.run.Yields exchanges (.ok value) := by
  rw [run_tryCatch, Operation.yields_bind_iff]
  constructor
  · rintro ⟨front, back, result, rfl, yields, others⟩
    cases result with
    | error error => exact absurd others (fails error back value)
    | ok middle =>
      obtain ⟨rfl, same⟩ := Operation.yields_pure_iff.mp others
      cases same
      rwa [List.append_nil]
  · intro yields
    exact ⟨exchanges, [], .ok value, (List.append_nil _).symm, yields, .here _⟩

variable {allowed : Query → Prop}

theorem only_bind {first : Attempt α} {next : α → Attempt β} (before : first.run.Only allowed)
    (behind : ∀ value, (next value).run.Only allowed) : (first >>= next).run.Only allowed := by
  refine Operation.only_bind before ?_
  rintro (error | value)
  · trivial
  · exact behind value

theorem only_tryCatch {handler : AuthError → Attempt α} (before : attempt.run.Only allowed)
    (behind : ∀ error, (handler error).run.Only allowed) :
    (tryCatch attempt handler).run.Only allowed := by
  refine Operation.only_bind before ?_
  rintro (error | value)
  · exact behind error
  · trivial

theorem only_lift {operation : Operation α} (only : operation.Only allowed) :
    (liftM operation : Attempt α).run.Only allowed :=
  Operation.only_bind only fun _ => trivial

theorem only_ofResult (result : Except AuthError α) : (ofResult result).run.Only allowed := trivial

/-- What is asked after a check depends on what the check has found. -/
theorem only_ofResult_bind {result : Except AuthError α} {next : α → Attempt β}
    (behind : ∀ value, result = .ok value → (next value).run.Only allowed) :
    (ofResult result >>= next).run.Only allowed := by
  cases result with
  | error error => trivial
  | ok value => exact behind value rfl

theorem only_throw (error : AuthError) : (throw error : Attempt α).run.Only allowed := trivial

theorem only_pure (value : α) : (pure value : Attempt α).run.Only allowed := trivial

theorem only_store {call : StoreCall} {within : Span} (asked : allowed (.store call within)) :
    (store call within).run.Only allowed :=
  Operation.only_query asked

theorem only_report (asked : ∀ event, allowed (.report event)) (level : Log.Level)
    (message : String) (fields : List (String × String)) :
    (liftM (Operation.report level message fields) : Attempt Unit).run.Only allowed :=
  only_lift (Operation.only_query (asked _))

end Attempt
end Signet
