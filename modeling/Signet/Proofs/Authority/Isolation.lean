import Signet.Proofs.Authority.Claiming
import Signet.Proofs.Authority.Trust
import Signet.Proofs.Deployment.Course

/-! Subjects do not interfere. A call asks the store for nothing but the key of its own subject, and
what is answered about a key, and left under it, depends only on what was there. So nobody who looks
at one subject can tell whether others are served besides it. -/

namespace Signet

/-- Queries that ask the store for nothing but the key of a subject, if there is one, and nobody about
credentials. -/
def Query.About (subject? : Option String) : Query → Prop
  | store call _ => ∃ subject, subject? = some subject ∧ call.key = Secret.key subject
  | fresh _ | time | report _ => True
  | verification _ => False

theorem Query.Quiet.about {query : Query} {subject? : Option String} (quiet : query.Quiet) :
    query.About subject? := by
  cases query with
  | store call within => exact quiet.elim
  | fresh length => trivial
  | time => trivial
  | verification credential => exact quiet.elim
  | report event => trivial

theorem Query.About.apart {query : Query} {subject? : Option String} (about : query.About subject?) :
    query.Apart := by
  cases query with
  | verification credential => exact about.elim
  | fresh length => trivial
  | time => trivial
  | store call within => trivial
  | report event => trivial

namespace Authority

/-- The subject that is named in a request, or else by its token. -/
def Request.subject? : Request → Option String
  | issue subject _ | revokeSubject subject => some subject
  | verify token _ | revoke token => (Token.peek token).toOption.map Claims.subject

/-- Whatever is asked for, the store is asked for the key of its subject only. -/
theorem perform_only (authority : Authority) (request : Request) :
    (authority.perform request).run.Only (Query.About request.subject?) := by
  have quiet : ∀ query : Query, query.Quiet → query.About request.subject? :=
    fun _ quiet => quiet.about
  cases request with
  | issue subject permissions =>
    exact issue_only quiet trivial fun fresh => ⟨subject, rfl, rfl⟩
  | verify token required =>
    apply verify_only quiet
    intro hint peeked
    exact ⟨hint.subject, by simp [Request.subject?, peeked, Except.toOption], rfl⟩
  | revoke token =>
    have named : ∀ hint, Token.peek token = .ok hint →
        (Request.revoke token).subject? = some hint.subject := by
      intro hint peeked
      simp [Request.subject?, peeked, Except.toOption]
    apply revoke_only quiet
    · intro hint peeked
      exact ⟨hint.subject, named hint peeked, rfl⟩
    · intro hint peeked
      exact ⟨hint.subject, named hint peeked, rfl⟩
  | revokeSubject subject => exact revokeSubject_only quiet ⟨subject, rfl, rfl⟩

theorem perform_apart (authority : Authority) (request : Request) :
    (authority.perform request).run.Only Query.Apart :=
  (authority.perform_only request).mono fun _ about => about.apart

end Authority

/-- What is answered to a call depends on the clock and on what is under its key. -/
theorem World.answer_congr {one other : World} {call : StoreCall} (clock : one.clock = other.clock)
    (found : one.store.entries.find? call.key = other.store.entries.find? call.key) :
    one.answer call = other.answer call := by
  have held : one.held call.key = other.held call.key := by
    rw [World.held, World.held, Store.live?, Store.live?, clock, found]
  cases call with
  | get key => exact (one.answer_get key).trans (held ▸ (other.answer_get key).symm)
  | claim key fresh ttl =>
    have first := one.claim_cases key fresh ttl
    have second := other.claim_cases key fresh ttl
    rw [clock] at first
    rcases first with ⟨error, ranged, failed⟩ | ⟨ranged, answered, -⟩
    · rcases second with ⟨again, same, fails⟩ | ⟨same, -, -⟩
      · obtain rfl : error = again := Except.error.inj (ranged.symm.trans same)
        rw [failed, fails]
      · cases ranged.symm.trans same
    · rcases second with ⟨again, same, -⟩ | ⟨-, answers, -⟩
      · cases ranged.symm.trans same
      · rw [answered, answers]
        exact congrArg (fun live => Except.ok (live.getD fresh)) held
  | delete key => rfl

namespace Deployment

variable {key : String} {one other : Deployment Store} {occasion : Occasion}

/-- Deployments without troubles that look the same to whoever asks about one key. -/
structure Alike (key : String) (one other : Deployment Store) : Prop where
  wall : one.wall = other.wall
  clock : one.clock = other.clock
  found : one.store.entries.find? key = other.store.entries.find? key
  calm : one.troubles = {}
  still : other.troubles = {}

namespace Alike

theorem refl (calm : one.troubles = {}) : Alike key one one := ⟨rfl, rfl, rfl, calm, calm⟩

/-- They stay so while the same time passes in both of them. -/
theorem elapsed {millis : Nat} {first second : Deployment Store} (alike : Alike key one other)
    (here : Elapsed millis one first) (there : Elapsed millis other second)
    (found : first.store.entries.find? key = second.store.entries.find? key) :
    Alike key first second where
  wall := by rw [here.wall, there.wall, alike.wall]
  clock := by rw [here.clock, there.clock, alike.clock]
  found := found
  calm := here.calm
  still := there.calm

/-- What is asked about the key is answered alike. -/
theorem answer (alike : Alike key one other) (never : occasion.facilities.cancellation = .never)
    {query : Query} (own : ∀ call within, query = .store call within → call.key = key) :
    (Deployment.answer occasion.facilities query one).1 =
        (Deployment.answer occasion.facilities query other).1 ∧
      Alike key (Deployment.answer occasion.facilities query one).2
        (Deployment.answer occasion.facilities query other).2 := by
  have here := elapsed_answer never alike.calm query
  have there := elapsed_answer never alike.still query
  cases query with
  | fresh length =>
    show (fresh _ one length).1 = (fresh _ other length).1 ∧
      Alike key (fresh _ one length).2 (fresh _ other length).2
    unfold fresh
    split
    · exact ⟨rfl, alike⟩
    · exact ⟨rfl, alike.wall, alike.clock, alike.found, alike.calm, alike.still⟩
  | time =>
    refine ⟨?_, alike⟩
    show one.now = other.now
    rw [now, now, alike.wall]
  | store call within =>
    have about : call.key = key := own call within rfl
    obtain ⟨first, before⟩ := answer_of_calm never alike.calm call within
    obtain ⟨second, behind⟩ := answer_of_calm never alike.still call within
    constructor
    · rw [first, second]
      exact World.answer_congr alike.clock (about ▸ alike.found)
    · apply alike.elapsed here there
      rw [before, behind, alike.clock]
      exact Access.find?_after_congr alike.found
  | verification credential => exact ⟨rfl, alike.elapsed here there alike.found⟩
  | report event => exact ⟨rfl, alike.elapsed here there alike.found⟩

/-- An operation that asks about the key only goes alike. -/
theorem run {α : Type} (alike : Alike key one other)
    (never : occasion.facilities.cancellation = .never) {operation : Operation α}
    (only : operation.Only fun query => ∀ call within, query = .store call within →
      call.key = key) :
    (one.run occasion.facilities operation).1 = (other.run occasion.facilities operation).1 ∧
      Alike key (one.run occasion.facilities operation).2
        (other.run occasion.facilities operation).2 := by
  induction operation generalizing one other with
  | done value => exact ⟨rfl, alike⟩
  | ask query next ih =>
    obtain ⟨same, after⟩ := alike.answer never only.1
    simp only [Deployment.run, Operation.run]
    rw [same]
    exact ih _ after (only.2 _)

end Alike

/-- An operation that asks about other keys leaves alone what is under this one. -/
theorem find?_run {α : Type} {deployment : Deployment Store} (calm : deployment.troubles = {})
    (never : occasion.facilities.cancellation = .never) {operation : Operation α}
    (only : operation.Only fun query => query.Apart ∧
      ∀ call within, query = .store call within → key ≠ call.key) :
    (deployment.run occasion.facilities operation).2.store.entries.find? key =
      deployment.store.entries.find? key := by
  induction operation generalizing deployment with
  | done value => rfl
  | ask query next ih =>
    have first := elapsed_answer never calm query
    obtain ⟨⟨apart, others⟩, later⟩ := only
    refine (ih _ first.calm (later _)).trans ?_
    rcases query.uses_or_not with ⟨call, within, rfl⟩ | unused
    · rw [(answer_of_calm never calm call within).2]
      exact Access.find?_after_ofCall_of_ne call (others call within rfl)
    · rw [store_answer_of_unused (leaves_of_apart apart) unused]

end Deployment

namespace Call

/-- The operation of a call. -/
def operation (call : Call) : Operation (Except AuthError call.request.Answer) :=
  (call.authority.perform call.request).run

/-- It is not about another subject. -/
def keepsTo (subject : String) (call : Call) : Bool :=
  call.request.subject?.all (· = subject)

end Call

/-- No other subject is served in this turn. -/
def Turn.keepsTo (subject : String) : Turn Call → Bool
  | ask call _ => call.keepsTo subject
  | meet _ | use _ | wait _ => true

namespace Deployment

variable {key subject : String} {one other : Deployment Store}

/-- Both deployments serve a call that is not about another subject. -/
theorem Alike.ask {call : Call} {occasion : Occasion}
    (alike : Alike (Secret.key subject) one other)
    (never : occasion.facilities.cancellation = .never) (own : call.keepsTo subject = true) :
    (one.run occasion.facilities call.operation).1 =
        (other.run occasion.facilities call.operation).1 ∧
      Alike (Secret.key subject) (one.run occasion.facilities call.operation).2
        (other.run occasion.facilities call.operation).2 := by
  apply alike.run never
  apply (call.authority.perform_only call.request).mono
  rintro query about asked within rfl
  obtain ⟨name, named, same⟩ := about
  have equal : name = subject := by simpa [Call.keepsTo, named] using own
  rw [same, equal]

/-- Only one of them serves a call that is about another subject. -/
theorem Alike.skip {call : Call} {occasion : Occasion}
    (alike : Alike (Secret.key subject) one other)
    (never : occasion.facilities.cancellation = .never) (foreign : ¬ call.keepsTo subject = true) :
    Alike (Secret.key subject) (one.run occasion.facilities call.operation).2 other := by
  apply alike.elapsed (elapsed_run never alike.calm _) (.refl alike.still)
  refine (find?_run alike.calm never ?_).trans alike.found
  apply (call.authority.perform_only call.request).mono
  intro query about
  refine ⟨about.apart, ?_⟩
  rintro asked within rfl same
  obtain ⟨name, named, equal⟩ := about
  apply foreign
  have own : subject = name := Secret.key_injective (same.trans equal)
  simp [Call.keepsTo, named, own]

/-- Both go alike through a turn in which no other subject is served. -/
theorem Alike.turn {turn : Turn Call} (alike : Alike (Secret.key subject) one other)
    (smooth : turn.Smooth) (own : turn.keepsTo subject = true) :
    one.answered? Call.operation turn = other.answered? Call.operation turn ∧
      Alike (Secret.key subject) (one.afterTurn Call.operation turn)
        (other.afterTurn Call.operation turn) := by
  cases turn with
  | ask call occasion =>
    have never : occasion.facilities.cancellation = .never := smooth
    obtain ⟨same, after⟩ := alike.ask never own
    refine ⟨?_, after⟩
    rw [answered?, answered?, same]
  | meet troubles => exact smooth.elim
  | use access =>
    refine ⟨rfl, alike.wall, alike.clock, ?_, alike.calm, alike.still⟩
    rw [store_afterTurn_use, store_afterTurn_use, alike.clock]
    exact Access.find?_after_congr alike.found
  | wait millis =>
    refine ⟨rfl, ?_, ?_, alike.found, alike.calm, alike.still⟩
    · exact congrArg (· + (millis : Int)) alike.wall
    · exact congrArg (· + Span.ofMillis millis) alike.clock

/-- What is answered in a turn is about the subject if and only if the turn is. -/
theorem filter_answered? (deployment : Deployment Store) (turn : Turn Call) :
    (deployment.answered? Call.operation turn).toList.filter (·.request.keepsTo subject) =
      if turn.keepsTo subject then (deployment.answered? Call.operation turn).toList else [] := by
  cases turn with
  | ask call occasion =>
    show List.filter _ [_] = if call.keepsTo subject then [_] else []
    rw [List.filter_cons, List.filter_nil]
  | meet troubles => rfl
  | use access => rfl
  | wait millis => rfl

/-- A run, and the same run without the calls about other subjects. -/
theorem Alike.turns {turns : List (Turn Call)} (alike : Alike (Secret.key subject) one other)
    (smooth : ∀ turn ∈ turns, turn.Smooth) :
    (one.answers Call.operation turns).filter (·.request.keepsTo subject) =
        other.answers Call.operation (turns.filter (·.keepsTo subject)) ∧
      Alike (Secret.key subject) (one.after Call.operation turns)
        (other.after Call.operation (turns.filter (·.keepsTo subject))) := by
  -- The induction goes along the whole run; the other one stands still in a turn about others.
  induction turns generalizing one other with
  | nil => exact ⟨rfl, alike⟩
  | cons turn turns ih =>
    have first : turn.Smooth := smooth turn (List.mem_cons_self ..)
    have others : ∀ turn ∈ turns, turn.Smooth := by
      intro later member
      exact smooth later (List.mem_cons_of_mem _ member)
    rw [answers, List.filter_append, filter_answered?]
    by_cases own : turn.keepsTo subject = true
    · obtain ⟨answered, after⟩ := alike.turn first own
      obtain ⟨answers, ended⟩ := ih after others
      rw [List.filter_cons_of_pos own, if_pos own, answered, answers]
      exact ⟨rfl, ended⟩
    · rw [List.filter_cons_of_neg own, if_neg own]
      cases turn with
      | ask call occasion =>
        have never : occasion.facilities.cancellation = .never := first
        exact ih (alike.skip never own) others
      | meet troubles => exact absurd rfl own
      | use access => exact absurd rfl own
      | wait millis => exact absurd rfl own

end Deployment

namespace Call

open Authority (sample sampleToken peek_sampleToken)
open Deployment (sampleStart)

/-- Whoever looks at one subject finds a run in which others are served, too, just as it would be
without them: whatever its calls and those about nobody are answered, token texts included, and what
is left under its key. -/
theorem subjects_apart {start : Deployment Store} {turns : List (Turn Call)}
    (calm : start.troubles = {}) (smooth : ∀ turn ∈ turns, turn.Smooth) (subject : String) :
    (start.answers operation turns).filter (·.request.keepsTo subject) =
        start.answers operation (turns.filter (·.keepsTo subject)) ∧
      (start.after operation turns).store.entries.find? (Secret.key subject) =
        (start.after operation (turns.filter (·.keepsTo subject))).store.entries.find?
          (Secret.key subject) := by
  obtain ⟨answers, ended⟩ := (Deployment.Alike.refl calm).turns smooth
  exact ⟨answers, ended.found⟩

/-- Subjects whose names or keys begin alike. -/
def sampleTurns : List (Turn Call) := [
  .ask ⟨sample, .issue "ann" .readAccount⟩ (sampleOccasion 7),
  .ask ⟨sample, .issue "secret:ann" .readAccount⟩ (sampleOccasion 8),
  .ask ⟨sample, .revokeSubject "ann:"⟩ (sampleOccasion 9),
  .wait 60000,
  .ask ⟨sample, .revokeSubject "secret:ann"⟩ (sampleOccasion 9),
  .use .purge,
  .ask ⟨sample, .verify sampleToken .readAccount⟩ (sampleOccasion 9)]

/-- The calls about the first subject are served as if there were no others. -/
theorem subjects_apart_in_sampleTurns :
    sampleTurns.filter (·.keepsTo "ann") = [
      .ask ⟨sample, .issue "ann" .readAccount⟩ (sampleOccasion 7),
      .wait 60000,
      .use .purge,
      .ask ⟨sample, .verify sampleToken .readAccount⟩ (sampleOccasion 9)] ∧
    (sampleStart.answers operation sampleTurns).filter (·.request.keepsTo "ann") =
      sampleStart.answers operation (sampleTurns.filter (·.keepsTo "ann")) ∧
    (sampleStart.after operation sampleTurns).store.entries.find? (Secret.key "ann") =
      (sampleStart.after operation (sampleTurns.filter (·.keepsTo "ann"))).store.entries.find?
        (Secret.key "ann") := by
  have named : (Token.peek sampleToken).toOption.map Claims.subject = some "ann" := by
    rw [peek_sampleToken]
    rfl
  have smooth : ∀ turn ∈ sampleTurns, turn.Smooth := by
    simp [sampleTurns, Turn.Smooth, sampleOccasion]
  refine ⟨?_, subjects_apart rfl smooth "ann"⟩
  simp [sampleTurns, Turn.keepsTo, keepsTo, Authority.Request.subject?, named]

end Call
end Signet
