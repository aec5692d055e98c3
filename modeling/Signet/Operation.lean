import Signet.Credential
import Signet.Clock
import Signet.Error
import Signet.Log.Event

/-! Operations on tokens as sequences of queries to their surroundings. An operation holds no state:
its answer depends on the answers to its queries alone, so what surrounds it can be chosen freely. -/

namespace Signet

/-- A call to the store of secrets. -/
inductive StoreCall where
  | get (key : String)
  | claim (key : String) (fresh : Secret) (ttl : Span)
  | delete (key : String)
  deriving DecidableEq, Repr

/-- What a successful call answers: the secret found, if one was; the secret that is visible
afterwards; nothing. -/
abbrev StoreCall.Answer : StoreCall → Type
  | get _ => Option Secret
  | claim .. => Secret
  | delete _ => Unit

/-- What an operation asks of its surroundings. -/
inductive Query where
  /-- A new secret of this many bytes, or why there is no randomness to be had. -/
  | fresh (length : Nat)
  /-- The time. -/
  | time
  /-- The answer to a store call, which is given up after some time. -/
  | store (call : StoreCall) (within : Span)
  /-- What the verifier says about a credential. -/
  | verification (credential : Credential)
  /-- Nothing; the event is reported. -/
  | report (event : Log.Event)

/-- What a query is answered with. -/
abbrev Query.Answer : Query → Type
  | fresh _ => Except String Secret
  | time => Timestamp
  | store call _ => Except AuthError call.Answer
  | verification _ => Except AuthError Verification
  | report _ => Unit

/-- A sequence of queries that ends with a value. -/
inductive Operation (α : Type) where
  | done (value : α)
  | ask (query : Query) (next : query.Answer → Operation α)

namespace Operation

variable {α β σ : Type}

/-- The operation that goes on with the value of another. -/
def andThen : Operation α → (α → Operation β) → Operation β
  | done value, next => next value
  | ask query rest, next => ask query fun answer => (rest answer).andThen next

instance : Monad Operation where
  pure := done
  bind := andThen

/-- What answers queries, changing its own state. -/
abbrev Surroundings (σ : Type) := (query : Query) → σ → query.Answer × σ

/-- The value of an operation in some surroundings, and their state after it. -/
def run (surroundings : Surroundings σ) : Operation α → σ → α × σ
  | done value, state => (value, state)
  | ask query next, state =>
    let (answer, state) := surroundings query state
    (next answer).run surroundings state

/-- What responds to queries, changing its own state. Whoever gets no answer breaks off. -/
abbrev Responder (σ : Type) := (query : Query) → σ → Option query.Answer × σ

/-- The value of an operation that may break off, and the state that it leaves. Once there is no
answer, there is no value, and nothing more is asked. -/
def execute (responder : Responder σ) : Operation α → σ → Option α × σ
  | done value, state => (some value, state)
  | ask query next, state =>
    match responder query state with
    | (some answer, state) => (next answer).execute responder state
    | (none, state) => (none, state)

@[simp] theorem run_pure (surroundings : Surroundings σ) (value : α) (state : σ) :
    (pure value : Operation α).run surroundings state = (value, state) := rfl

@[simp] theorem run_bind (surroundings : Surroundings σ) (first : Operation α)
    (next : α → Operation β) (state : σ) :
    (first >>= next).run surroundings state =
      (next (first.run surroundings state).1).run surroundings (first.run surroundings state).2 := by
  show (first.andThen next).run surroundings state = _
  induction first generalizing state with
  | done value => rfl
  | ask query rest ih => exact ih _ _

/-- Asks one query. -/
def query (query : Query) : Operation query.Answer := ask query done

/-- Reports an event. -/
def report (level : Log.Level) (message : String) (fields : List (String × String)) :
    Operation Unit :=
  query (.report ⟨level, message, fields⟩)

/-- The time. -/
def time : Operation Timestamp := query .time

end Operation

/-- An operation that may fail. -/
abbrev Attempt (α : Type) := ExceptT AuthError Operation α

namespace Attempt

variable {α : Type}

/-- Makes a store call. -/
def store (call : StoreCall) (within : Span) : Attempt call.Answer :=
  ExceptT.mk (Operation.query (.store call within))

/-- The result of a check that asks for nothing. -/
def ofResult (result : Except AuthError α) : Attempt α := ExceptT.mk (pure result)

end Attempt
end Signet
