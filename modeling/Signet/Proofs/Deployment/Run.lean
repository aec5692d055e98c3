import Signet.Deployment
import Signet.Proofs.History

/-! What a deployment does is a history. Whatever trouble its calls meet, an operation that it runs
takes a path of the operation, and its store goes through the events of that path. -/

namespace Signet

/-- An event that only this caller takes part in. -/
def Event.Own (caller : Nat) : Event → Prop
  | aside other _ => other = caller
  | reached other _ _ _ => other = caller
  | passed _ => True
  | direct _ => False

theorem Event.Own.exchange?_eq_none {caller other : Nat} {event : Event} (own : event.Own caller)
    (different : other ≠ caller) : event.exchange? other = none := by
  cases event with
  | aside maker exchange =>
    obtain rfl : maker = caller := own
    exact if_neg (Ne.symm different)
  | reached maker call within answer =>
    obtain rfl : maker = caller := own
    exact if_neg (Ne.symm different)
  | direct access => rfl
  | passed span => rfl

/-- What a caller does alone from one world to another. -/
structure Records (caller : Nat) (before : World) (history : List Event)
    (exchanges : List Exchange) (after : World) : Prop where
  admits : before.Admits history
  learned : exchangesOf caller history = exchanges
  own : ∀ event ∈ history, event.Own caller
  honest : ∀ event ∈ history, event.Honest
  ends : before.after history = after

namespace Records

variable {caller : Nat} {before middle after : World} {front back history : List Event}
  {first second exchanges : List Exchange}

theorem nil : Records caller before [] [] before :=
  ⟨trivial, rfl, by simp, by simp, rfl⟩

theorem append (early : Records caller before front first middle)
    (late : Records caller middle back second after) :
    Records caller before (front ++ back) (first ++ second) after where
  admits := World.admits_append_iff.mpr ⟨early.admits, early.ends ▸ late.admits⟩
  learned := by rw [exchangesOf_append, early.learned, late.learned]
  own := by
    intro event member
    rcases List.mem_append.mp member with before | behind
    · exact early.own event before
    · exact late.own event behind
  honest := by
    intro event member
    rcases List.mem_append.mp member with before | behind
    · exact early.honest event before
    · exact late.honest event behind
  ends := by rw [World.after_append, early.ends, late.ends]

theorem aside {exchange : Exchange} (fits : (Event.aside caller exchange).Fits before)
    (honest : (Event.aside caller exchange).Honest) :
    Records caller before [.aside caller exchange] [exchange] before :=
  ⟨⟨fits, trivial⟩, by simp [exchangesOf, Event.exchange?], by simp [Event.Own],
    by simpa using honest, rfl⟩

theorem passed {later : Instant} (order : before.clock ≤ later) :
    Records caller before [.passed (later - before.clock)] [] { before with clock := later } := by
  refine ⟨⟨trivial, trivial⟩, rfl, by simp [Event.Own], by simp [Event.Honest], ?_⟩
  show World.mk (before.clock + (later - before.clock)) before.store = _
  rw [Nat.add_sub_cancel' order]

theorem exchangesOf_eq_nil (records : Records caller before history exchanges after) {other : Nat}
    (different : other ≠ caller) : exchangesOf other history = [] := by
  rw [exchangesOf, List.filterMap_eq_nil_iff]
  intro event member
  exact (records.own event member).exchange?_eq_none different

end Records

namespace Deployment

variable {facilities : Facilities Store} {caller : Nat}

/-- The store of a deployment and its clock. -/
def world (deployment : Deployment Store) : World := ⟨deployment.clock, deployment.store⟩

/-- The wait for a call does not end before the call, and the call meets its own trouble. -/
theorem awaited_spec (cancellation : Cancellation) (now : Instant) (within : Span)
    (trouble : Trouble) : now ≤ (awaited cancellation now within trouble).moment ∧
      ∀ other, (awaited cancellation now within trouble).ending = .met other → other = trouble := by
  have ended : ∀ pending : Pending,
      pending = ⟨now + within, .timedOut⟩ ∨ (∃ span, pending = ⟨now + span, .met trouble⟩) ∨
        (∃ moment, pending = ⟨max now moment, .cancelled⟩) →
      now ≤ pending.moment ∧ ∀ other, pending.ending = .met other → other = trouble := by
    rintro pending (rfl | ⟨span, rfl⟩ | ⟨moment, rfl⟩)
    · exact ⟨Nat.le_add_right .., fun _ same => nomatch same⟩
    · exact ⟨Nat.le_add_right .., fun _ same => (Ending.met.inj same).symm⟩
    · exact ⟨Nat.le_max_left .., fun _ same => nomatch same⟩
  apply ended
  simp only [awaited]
  cases trouble.wait.filter (· ≤ within) with
  | none =>
    cases cancellation with
    | never => exact .inl rfl
    | before => exact .inr (.inr ⟨now, by rw [Nat.max_self]⟩)
    | during moment =>
      simp only [Option.map_none]
      split
      · exact .inr (.inr ⟨moment, rfl⟩)
      · exact .inl rfl
  | some span =>
    cases cancellation with
    | never => exact .inr (.inl ⟨span, rfl⟩)
    | before => exact .inr (.inr ⟨now, by rw [Nat.max_self]⟩)
    | during moment =>
      simp only [Option.map_some]
      split
      · exact .inr (.inr ⟨moment, rfl⟩)
      · exact .inr (.inl ⟨span, rfl⟩)

theorem records_reach (deployment : Deployment Store) (call : StoreCall) (within : Span) :
    Records caller deployment.world [.reached caller call within (deployment.reach call).1]
      [⟨.store call within, (deployment.reach call).1⟩] (deployment.reach call).2.world where
  admits := ⟨.inl rfl, trivial⟩
  learned := by simp [exchangesOf, Event.exchange?]
  own := by simp [Event.Own]
  honest := by simp [Event.Honest]
  ends := by
    show World.mk _ ((Access.ofCall call).after deployment.clock deployment.store) = _
    rw [Access.after_ofCall]
    rfl

/-- However the wait for a call ends, either the call has reached the store or it has not. -/
theorem records_finish (deployment : Deployment Store) (call : StoreCall) (within : Span)
    {ending : Ending} (genuine : ∀ secret, ending ≠ .met (.answering secret)) :
    ∃ history, Records caller deployment.world history
      [⟨.store call within, (deployment.finish call ending).1⟩]
      (deployment.finish call ending).2.world := by
  unfold finish
  split
  case h_4 secret => exact absurd rfl (genuine secret)
  case h_5 => exact ⟨_, deployment.records_reach call within⟩
  all_goals exact ⟨_, .aside trivial trivial⟩

/-- No call is answered in place of the store. -/
def Genuine (deployment : Deployment Store) : Prop :=
  ∀ trouble ∈ deployment.troubles.get ++ deployment.troubles.claim ++ deployment.troubles.delete,
    ∀ secret, trouble ≠ .answering secret

theorem Genuine.next {deployment : Deployment Store} (genuine : deployment.Genuine)
    (call : StoreCall) (secret : Option Secret) :
    deployment.troubles.next call ≠ .answering secret := by
  have first : ∀ troubles : List Trouble, (∀ trouble ∈ troubles, ∀ secret,
      trouble ≠ .answering secret) → troubles.headD .pass ≠ .answering secret := by
    rintro (_ | ⟨trouble, troubles⟩) each
    · simp
    · exact each trouble (List.mem_cons_self ..) secret
  cases call with
  | get key => exact first _ fun trouble member => genuine trouble (by simp [member])
  | claim key fresh ttl => exact first _ fun trouble member => genuine trouble (by simp [member])
  | delete key => exact first _ fun trouble member => genuine trouble (by simp [member])

theorem Genuine.drop {deployment : Deployment Store} (genuine : deployment.Genuine)
    (call : StoreCall) :
    { deployment with troubles := deployment.troubles.drop call }.Genuine := by
  intro trouble member
  apply genuine trouble
  simp only [List.mem_append] at member ⊢
  cases call with
  | get key => exact member.imp_left (Or.imp_left List.mem_of_mem_tail)
  | claim key fresh ttl => exact member.imp_left (Or.imp_right List.mem_of_mem_tail)
  | delete key => exact member.imp_right List.mem_of_mem_tail

theorem troubles_finish (deployment : Deployment Store) (call : StoreCall) (ending : Ending) :
    (deployment.finish call ending).2.troubles = deployment.troubles := by
  unfold finish
  split
  all_goals try rfl
  split <;> rfl

/-- The wait for a call ends at a moment. -/
theorem records_wait {deployment : Deployment Store} (genuine : deployment.Genuine)
    {moment : Instant} (order : deployment.clock ≤ moment) {ending : Ending}
    (unscripted : ∀ secret, ending ≠ .met (.answering secret)) (call : StoreCall)
    (within : Span) :
    (∃ history, Records caller deployment.world history
      [⟨.store call within, ({ deployment with clock := moment }.finish call ending).1⟩]
      ({ deployment with clock := moment }.finish call ending).2.world) ∧
    ({ deployment with clock := moment }.finish call ending).2.Genuine := by
  obtain ⟨history, finished⟩ :=
    ({ deployment with clock := moment }).records_finish call within unscripted
  refine ⟨⟨_, (Records.passed order).append finished⟩, ?_⟩
  unfold Genuine
  rw [troubles_finish]
  exact genuine

/-- A call that has been made waits for its own answer, and nothing else has changed. -/
theorem start_spec (facilities : Facilities Store) {deployment : Deployment Store}
    (genuine : deployment.Genuine) (call : StoreCall) (within : Span) :
    deployment.clock ≤ (deployment.start facilities call within).1.moment ∧
    (∀ secret, (deployment.start facilities call within).1.ending ≠ .met (.answering secret)) ∧
    (deployment.start facilities call within).2.world = deployment.world ∧
    (deployment.start facilities call within).2.Genuine := by
  obtain ⟨order, met⟩ := awaited_spec facilities.cancellation deployment.clock within
    (deployment.troubles.next call)
  have unscripted : ∀ secret, (awaited facilities.cancellation deployment.clock within
      (deployment.troubles.next call)).ending ≠ .met (.answering secret) := by
    intro secret same
    exact genuine.next call secret (met _ same).symm
  unfold start
  split
  · exact ⟨order, unscripted, rfl, genuine⟩
  · exact ⟨order, unscripted, rfl, genuine.drop call⟩

theorem records_call (facilities : Facilities Store) {deployment : Deployment Store}
    (genuine : deployment.Genuine) (call : StoreCall) (within : Span) :
    (∃ history, Records caller deployment.world history
      [⟨.store call within, (deployment.call facilities call within).1⟩]
      (deployment.call facilities call within).2.world) ∧
    (deployment.call facilities call within).2.Genuine := by
  obtain ⟨order, unscripted, world, later⟩ := start_spec facilities genuine call within
  unfold Deployment.call
  generalize deployment.start facilities call within = started at order unscripted world later ⊢
  obtain ⟨pending, middle⟩ := started
  rw [← world]
  rw [← show middle.clock = deployment.clock from congrArg World.clock world] at order
  exact records_wait later order unscripted call within

/-- What surrounds an operation: secrets are drawn at the length that is asked for, and who verifies
credentials leaves the store alone. -/
structure Facilities.Fair (facilities : Facilities Store) : Prop where
  length : ∀ draw length bytes, facilities.random draw length = .ok bytes → bytes.length = length
  apart : ∀ store credential, (facilities.verify store credential).2 = store

theorem records_answer (fair : facilities.Fair) {deployment : Deployment Store}
    (genuine : deployment.Genuine) (query : Query) :
    (∃ history, Records caller deployment.world history
      [⟨query, (answer facilities query deployment).1⟩]
      (answer facilities query deployment).2.world) ∧
    (answer facilities query deployment).2.Genuine := by
  cases query with
  | fresh length =>
    show (∃ history, Records caller deployment.world history
      [⟨.fresh length, (deployment.fresh facilities length).1⟩]
      (deployment.fresh facilities length).2.world) ∧
      (deployment.fresh facilities length).2.Genuine
    unfold fresh
    split
    case isTrue none => exact ⟨⟨_, .aside none.symm trivial⟩, genuine⟩
    case isFalse some =>
      refine ⟨⟨_, .aside ?_ trivial⟩, genuine⟩
      cases drawn : facilities.random deployment.draws length with
      | error reason => trivial
      | ok bytes => exact fair.length _ _ _ drawn
  | time => exact ⟨⟨_, .aside trivial trivial⟩, genuine⟩
  | store call within => exact records_call facilities genuine call within
  | verification credential =>
    refine ⟨?_, genuine⟩
    have same : (answer facilities (.verification credential) deployment).2.world =
        deployment.world := congrArg (World.mk _) (fair.apart ..)
    rw [same]
    exact ⟨_, .aside trivial trivial⟩
  | report event => exact ⟨⟨_, .aside trivial trivial⟩, genuine⟩

/-- An operation takes a path of its own in a deployment, and the deployment goes through its
events. -/
theorem records_run {α : Type} (fair : facilities.Fair) (operation : Operation α)
    {deployment : Deployment Store} (genuine : deployment.Genuine) : ∃ history exchanges,
      Records caller deployment.world history exchanges
        (deployment.run facilities operation).2.world ∧
      operation.Yields exchanges (deployment.run facilities operation).1 ∧
      (deployment.run facilities operation).2.Genuine := by
  induction operation generalizing deployment with
  | done value => exact ⟨[], [], .nil, .here _, genuine⟩
  | ask query next ih =>
    obtain ⟨⟨front, first⟩, later⟩ := records_answer fair genuine query
    obtain ⟨back, exchanges, second, yields, last⟩ := ih _ later
    exact ⟨front ++ back, _, first.append second, .ask yields, last⟩

/-- Without troubles a call reaches the store at once. -/
theorem call_of_calm {σ : Type} [SecretStore σ] {facilities : Facilities σ}
    {deployment : Deployment σ} (never : facilities.cancellation = .never)
    (calm : deployment.troubles = {}) (call : StoreCall) (within : Span) :
    deployment.call facilities call within = deployment.reach call := by
  have next : deployment.troubles.next call = .pass := by
    rw [calm]
    cases call <;> rfl
  have rest : deployment.troubles.drop call = {} := by
    rw [calm]
    cases call <;> rfl
  obtain ⟨wall, clock, store, troubles, draws, reports⟩ := deployment
  obtain rfl : troubles = {} := calm
  simp [Deployment.call, start, never, next, rest, awaited, Trouble.wait, Option.filter, finish]

end Deployment

theorem Run.empty (start : World) (calls : Nat → Call) : Run start calls [] :=
  ⟨trivial, fun _ => ⟨_, .here _⟩⟩

/-- A run goes on in a deployment that it has led to: whoever has not begun makes the whole call
there, and nobody else takes part. -/
theorem Run.attempt {start : World} {calls : Nat → Call} {history : List Event} {caller : Nat}
    {facilities : Deployment.Facilities Store} {deployment : Deployment Store}
    (run : Run start calls history) (reached : start.after history = deployment.world)
    (idle : exchangesOf caller history = []) (fair : facilities.Fair)
    (genuine : deployment.Genuine) : ∃ more, Run start calls (history ++ more) ∧
      (∀ event ∈ more, event.Own caller ∧ event.Honest) ∧
      start.after (history ++ more) = (deployment.attempt facilities
        ((calls caller).authority.perform (calls caller).request)).2.world ∧
      ((calls caller).authority.perform (calls caller).request).run.Yields
        (exchangesOf caller (history ++ more))
        (deployment.attempt facilities
          ((calls caller).authority.perform (calls caller).request)).1 ∧
      (deployment.attempt facilities
        ((calls caller).authority.perform (calls caller).request)).2.Genuine := by
  obtain ⟨more, exchanges, records, yields, later⟩ := Deployment.records_run fair
    ((calls caller).authority.perform (calls caller).request).run genuine
  have learned : exchangesOf caller (history ++ more) = exchanges := by
    rw [exchangesOf_append, idle, records.learned, List.nil_append]
  refine ⟨more, ⟨?_, ?_⟩, ?_, ?_, learned ▸ yields, later⟩
  · exact World.admits_append_iff.mpr ⟨run.admits, reached ▸ records.admits⟩
  · intro other
    by_cases same : other = caller
    · rw [same, learned]
      exact ⟨_, yields⟩
    · rw [exchangesOf_append, records.exchangesOf_eq_nil same, List.append_nil]
      exact run.follows other
  · intro event member
    exact ⟨records.own event member, records.honest event member⟩
  · rw [World.after_append, reached, records.ends]
    rfl

end Signet
