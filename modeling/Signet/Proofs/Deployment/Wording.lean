import Mathlib.Data.List.Forall2
import Signet.Proofs.Deployment.Course
import Signet.Proofs.Operation.Wording

/-! Deployments that differ in the wording of failures. What does not heed wording is answered the
same in both, turn by turn. -/

namespace Signet

/-- A trouble without its wording. -/
def Trouble.plain : Trouble → Trouble
  | failing error => failing error.plain
  | trouble => trouble

theorem Trouble.plain_cases {first second : Trouble} (same : first.plain = second.plain) :
    first = second ∨ ∃ one other, first = .failing one ∧ second = .failing other ∧
      one.plain = other.plain := by
  cases first with
  | failing one =>
    cases second with
    | failing other => exact .inr ⟨one, other, rfl, rfl, failing.inj same⟩
    | _ => cases same
  | _ =>
    cases second with
    | failing other => cases same
    | _ => exact .inl same

namespace Troubles

/-- Troubles without their wording. -/
def plain (troubles : Troubles) : Troubles where
  get := troubles.get.map Trouble.plain
  claim := troubles.claim.map Trouble.plain
  delete := troubles.delete.map Trouble.plain

theorem plain_next (troubles : Troubles) (call : StoreCall) :
    (troubles.next call).plain = troubles.plain.next call := by
  have first : ∀ list : List Trouble,
      (list.headD .pass).plain = (list.map Trouble.plain).headD .pass := by
    intro list
    cases list <;> rfl
  cases call <;> exact first _

theorem plain_drop (troubles : Troubles) (call : StoreCall) :
    (troubles.drop call).plain = troubles.plain.drop call := by
  cases call <;> simp [plain, drop, List.map_tail]

theorem plain_followedBy (troubles others : Troubles) :
    (troubles.followedBy others).plain = troubles.plain.followedBy others.plain := by
  simp [plain, followedBy]

end Troubles

/-- The same occasion, but for the wording of what fails on it. -/
structure Occasion.Reworded (first second : Occasion) : Prop where
  random : ∀ length, (first.random length).toOption = (second.random length).toOption
  said : Signet.Reworded first.said second.said
  cancellation : first.cancellation = second.cancellation

/-- The same turn, but for the wording of failures. -/
inductive Turn.Reworded {ρ : Type} : Turn ρ → Turn ρ → Prop where
  | ask {first second : Occasion} (request : ρ) (occasions : first.Reworded second) :
      Reworded (.ask request first) (.ask request second)
  | meet {first second : Troubles} (same : first.plain = second.plain) :
      Reworded (.meet first) (.meet second)
  | use (access : Access) : Reworded (.use access) (.use access)
  | wait (millis : Nat) : Reworded (.wait millis) (.wait millis)

namespace Deployment

/-- Deployments that differ in the wording of the failures to come and in what has been reported. -/
structure Reworded (first second : Deployment Store) : Prop where
  wall : first.wall = second.wall
  clock : first.clock = second.clock
  store : first.store = second.store
  draws : first.draws = second.draws
  troubles : first.troubles.plain = second.troubles.plain

/-- The same ending, but for the wording of a failure. -/
inductive Ending.Reworded : Ending → Ending → Prop where
  | same (ending : Ending) : Reworded ending ending
  | failing {first second : StoreError} (same : first.plain = second.plain) :
      Reworded (.met (.failing first)) (.met (.failing second))

variable {first second : Deployment Store} {one other : Occasion}

theorem Reworded.report (reworded : Reworded first second) (before after : List Log.Event) :
    Reworded (first.report before) (second.report after) :=
  ⟨reworded.wall, reworded.clock, reworded.store, reworded.draws, reworded.troubles⟩

/-- A call that fails at once ends when one does that fails in other words. -/
theorem awaited_reworded {before after : Trouble} (same : before.plain = after.plain)
    (cancellation : Cancellation) (now : Instant) (within : Span) :
    (awaited cancellation now within before).moment =
        (awaited cancellation now within after).moment ∧
      (awaited cancellation now within before).ending.Reworded
        (awaited cancellation now within after).ending := by
  rcases Trouble.plain_cases same with rfl | ⟨one, other, rfl, rfl, errors⟩
  · exact ⟨rfl, .same _⟩
  · have answered : ∀ error, (Trouble.failing error).wait.filter (· ≤ within) = some 0 := by
      intro error
      simp [Trouble.wait]
    unfold awaited
    dsimp only
    rw [answered, answered]
    cases cancellation with
    | never => exact ⟨rfl, .failing errors⟩
    | before => exact ⟨rfl, .same _⟩
    | during moment =>
      dsimp only [Option.map_some]
      split
      · exact ⟨rfl, .same _⟩
      · exact ⟨rfl, .failing errors⟩

theorem Reworded.start (reworded : Reworded first second) (occasions : one.Reworded other)
    (call : StoreCall) (within : Span) :
    (first.start one.facilities call within).1.moment =
        (second.start other.facilities call within).1.moment ∧
      (first.start one.facilities call within).1.ending.Reworded
        (second.start other.facilities call within).1.ending ∧
      Reworded (first.start one.facilities call within).2
        (second.start other.facilities call within).2 := by
  obtain ⟨wall, clock, store, draws, troubles⟩ := reworded
  have cancellation : one.facilities.cancellation = other.facilities.cancellation :=
    occasions.cancellation
  have next : (first.troubles.next call).plain = (second.troubles.next call).plain := by
    rw [Troubles.plain_next, troubles, Troubles.plain_next]
  have dropped : (first.troubles.drop call).plain = (second.troubles.drop call).plain := by
    rw [Troubles.plain_drop, troubles, Troubles.plain_drop]
  obtain ⟨moment, ending⟩ :=
    awaited_reworded next other.facilities.cancellation second.clock within
  unfold Deployment.start
  dsimp only
  rw [cancellation, clock]
  split
  · exact ⟨moment, ending, wall, clock, store, draws, troubles⟩
  · exact ⟨moment, ending, wall, rfl, store, draws, dropped⟩

theorem Reworded.reach (reworded : Reworded first second) (call : StoreCall) :
    (first.reach call).1 = (second.reach call).1 ∧
      Reworded (first.reach call).2 (second.reach call).2 := by
  obtain ⟨wall, clock, store, draws, troubles⟩ := reworded
  unfold Deployment.reach
  rw [store, clock]
  exact ⟨rfl, wall, rfl, rfl, draws, troubles⟩

theorem Reworded.finish (reworded : Reworded first second) (call : StoreCall)
    {before after : Ending} (endings : before.Reworded after) :
    Signet.Reworded (first.finish call before).1 (second.finish call after).1 ∧
      Reworded (first.finish call before).2 (second.finish call after).2 := by
  have reached : Signet.Reworded (first.reach call).1 (second.reach call).1 ∧
      Reworded (first.reach call).2 (second.reach call).2 := by
    obtain ⟨same, later⟩ := reworded.reach call
    exact ⟨same ▸ .refl _, later⟩
  cases endings with
  | failing same => exact ⟨.error (congrArg AuthError.store same), reworded⟩
  | same ending =>
    unfold Deployment.finish
    split
    · exact ⟨.refl _, reworded⟩
    · exact ⟨.refl _, reworded⟩
    · exact ⟨.refl _, reworded⟩
    · split
      · exact ⟨.refl _, reworded⟩
      · exact reached
    · exact reached

/-- Queries are answered alike, and what they leave differs in nothing but wording. -/
theorem Reworded.answer (occasions : one.Reworded other) (query : Query)
    (first second : Deployment Store) (reworded : Reworded first second) :
    query.Alike (Deployment.answer one.facilities query first).1
        (Deployment.answer other.facilities query second).1 ∧
      Reworded (Deployment.answer one.facilities query first).2
        (Deployment.answer other.facilities query second).2 := by
  cases query with
  | fresh length =>
    obtain ⟨wall, clock, store, draws, troubles⟩ := reworded
    simp only [Deployment.answer, Deployment.fresh]
    split
    · exact ⟨rfl, wall, clock, store, draws, troubles⟩
    · refine ⟨?_, wall, clock, store, congrArg (· + 1) draws, troubles⟩
      have wrapped : ∀ drawn : Except String Bytes,
          (drawn.map Secret.mk).toOption = drawn.toOption.map Secret.mk := by
        intro drawn
        cases drawn <;> rfl
      show ((one.random length).map Secret.mk).toOption =
        ((other.random length).map Secret.mk).toOption
      rw [wrapped, wrapped, occasions.random length]
  | time =>
    have now : first.now = second.now := by rw [Deployment.now, Deployment.now, reworded.wall]
    exact ⟨now, reworded⟩
  | store call within =>
    obtain ⟨moment, ending, started⟩ := reworded.start occasions call within
    simp only [Deployment.answer, Deployment.call]
    refine Reworded.finish ?_ call ending
    exact ⟨started.wall, moment, started.store, started.draws, started.troubles⟩
  | verification credential =>
    exact ⟨occasions.said, reworded.wall, reworded.clock, reworded.store, reworded.draws,
      reworded.troubles⟩
  | report event => exact ⟨trivial, reworded.report [event] [event]⟩

/-- What does not heed wording ends with related values, and leaves a difference in wording alone. -/
theorem Reworded.run {α : Type} {related : α → α → Prop} {before after : Operation α}
    (reworded : Reworded first second) (occasions : one.Reworded other)
    (step : Operation.InStep related before after) :
    related (first.run one.facilities before).1 (second.run other.facilities after).1 ∧
      Reworded (first.run one.facilities before).2 (second.run other.facilities after).2 :=
  step.run (fun before after _ _ reworded => reworded.report [before] [after])
    (fun query left right reworded => Reworded.answer occasions query left right reworded) reworded

section

variable {ρ β : Type} {serve : ρ → Operation β}

theorem Reworded.turn {before after : Turn ρ} (reworded : Reworded first second)
    (step : ∀ request, Operation.InStep Eq (serve request) (serve request))
    (turns : before.Reworded after) :
    (first.answered? serve before).toList.map (·.answer) =
        (second.answered? serve after).toList.map (·.answer) ∧
      Reworded (first.afterTurn serve before) (second.afterTurn serve after) := by
  cases turns with
  | ask request occasions =>
    obtain ⟨same, later⟩ := reworded.run occasions (step request)
    exact ⟨congrArg (fun answer => [answer]) same, later⟩
  | meet same =>
    refine ⟨rfl, reworded.wall, reworded.clock, reworded.store, reworded.draws, ?_⟩
    show (first.troubles.followedBy _).plain = (second.troubles.followedBy _).plain
    rw [Troubles.plain_followedBy, reworded.troubles, same, Troubles.plain_followedBy]
  | use access =>
    refine ⟨rfl, reworded.wall, reworded.clock, ?_, reworded.draws, reworded.troubles⟩
    rw [store_afterTurn_use, store_afterTurn_use, reworded.store, reworded.clock]
  | wait millis =>
    exact ⟨rfl, congrArg (· + (millis : Int)) reworded.wall,
      congrArg (· + Span.ofMillis millis) reworded.clock, reworded.store, reworded.draws,
      reworded.troubles⟩

/-- Where requests are served without heed of wording, the wording of failures changes no answer. -/
theorem Reworded.answers {turns others : List (Turn ρ)} (reworded : Reworded first second)
    (step : ∀ request, Operation.InStep Eq (serve request) (serve request))
    (same : List.Forall₂ Turn.Reworded turns others) :
    (first.answers serve turns).map (·.answer) = (second.answers serve others).map (·.answer) := by
  induction same generalizing first second with
  | nil => rfl
  | cons turn _ ih =>
    obtain ⟨answered, later⟩ := reworded.turn step turn
    rw [Deployment.answers, Deployment.answers, List.map_append, List.map_append, answered,
      ih later]

end

end Deployment
end Signet
