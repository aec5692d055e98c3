import Signet.Proofs.Deployment.Run

/-! What a deployment does with operations side by side is a history too. Each operation takes a
path of its own, and their events come in the order in which their waits end. -/

namespace Signet.Deployment

variable {α : Type} {facilities : Facilities Store} {caller : Nat}

/-- How far an operation has come: it has ended after these exchanges, or it waits for a store call
and will go on with the rest of its path. -/
def Progress.Stands (facilities : Facilities Store) (operation : Operation α)
    (exchanges : List Exchange) : Progress Store α → Prop
  | ended value => operation.Yields exchanges value
  | waiting _ rest => ∃ call within next ending,
      operation.Follows exchanges (.ask (.store call within) next) ∧
      (∀ secret, ending ≠ .met (.answering secret)) ∧
      rest = fun deployment => (deployment.finish call ending).2.run facilities
        (next (deployment.finish call ending).1)

theorem Progress.Stands.of_next {query : Query} {next : query.Answer → Operation α}
    {answer : query.Answer} {exchanges : List Exchange} {progress : Progress Store α}
    (stands : progress.Stands facilities (next answer) exchanges) :
    progress.Stands facilities (.ask query next) (⟨query, answer⟩ :: exchanges) := by
  cases progress with
  | ended value => exact Operation.Follows.ask stands
  | waiting moment rest =>
    obtain ⟨call, within, others, ending, follows, unscripted, same⟩ := stands
    exact ⟨call, within, others, ending, .ask follows, unscripted, same⟩

/-- An operation is begun with a part of its path, up to its end or its first wait. -/
theorem records_begin (caller : Nat) (fair : facilities.Fair) (operation : Operation α)
    {deployment : Deployment Store} (genuine : deployment.Genuine) : ∃ history exchanges,
      Records caller deployment.world history exchanges
        (begin facilities operation deployment).2.world ∧
      (begin facilities operation deployment).1.Stands facilities operation exchanges ∧
      (begin facilities operation deployment).2.Genuine := by
  induction operation generalizing deployment with
  | done value => exact ⟨[], [], .nil, .here _, genuine⟩
  | ask query next ih =>
    by_cases called : ∃ call within, query = .store call within
    · obtain ⟨call, within, rfl⟩ := called
      obtain ⟨order, unscripted, world, later⟩ := start_spec facilities genuine call within
      unfold begin
      generalize deployment.start facilities call within = started
        at order unscripted world later ⊢
      obtain ⟨pending, middle⟩ := started
      rw [← world]
      dsimp only
      split
      case isTrue finished =>
        obtain ⟨⟨front, first⟩, after⟩ := records_wait later (Nat.le_refl _) unscripted call within
        obtain ⟨back, exchanges, second, stands, last⟩ := ih _ after
        exact ⟨front ++ back, _, first.append second, stands.of_next, last⟩
      case isFalse waits =>
        exact ⟨[], [], .nil, ⟨call, within, next, pending.ending, .here _, unscripted, rfl⟩, later⟩
    · have begun : begin facilities (.ask query next) deployment =
          begin facilities (next (answer facilities query deployment).1)
            (answer facilities query deployment).2 := by
        cases query with
        | store call within => exact absurd ⟨call, within, rfl⟩ called
        | fresh length => rfl
        | time => rfl
        | verification credential => rfl
        | report event => rfl
      obtain ⟨⟨front, first⟩, later⟩ := records_answer fair genuine query
      obtain ⟨back, exchanges, second, stands, last⟩ := ih _ later
      rw [begun]
      exact ⟨front ++ back, _, first.append second, stands.of_next, last⟩

/-- An operation that has waited goes on to its end. -/
theorem records_rest (caller : Nat) (fair : facilities.Fair) {deployment : Deployment Store}
    (genuine : deployment.Genuine) {operation : Operation α} {exchanges : List Exchange}
    {moment later : Instant} {rest : Deployment Store → α × Deployment Store}
    (stands : (Progress.waiting moment rest).Stands facilities operation exchanges)
    (order : deployment.clock ≤ later) : ∃ history more,
      Records caller deployment.world history more
        (rest { deployment with clock := later }).2.world ∧
      operation.Yields (exchanges ++ more) (rest { deployment with clock := later }).1 ∧
      (rest { deployment with clock := later }).2.Genuine := by
  obtain ⟨call, within, next, ending, follows, unscripted, rfl⟩ := stands
  obtain ⟨⟨front, first⟩, after⟩ := records_wait genuine order unscripted call within
  obtain ⟨back, exchanges, second, yields, last⟩ := records_run fair (next _) after
  exact ⟨front ++ back, _, first.append second, follows.append (.ask yields), last⟩

/-- What callers from one to before another do from one world to another. -/
structure Joint (low high : Nat) (before : World) (history : List Event) (after : World) :
    Prop where
  admits : before.Admits history
  own : ∀ event ∈ history, ∃ caller, low ≤ caller ∧ caller < high ∧ event.Own caller
  honest : ∀ event ∈ history, event.Honest
  ends : before.after history = after

namespace Joint

variable {low high : Nat} {before middle after : World} {front back history : List Event}

theorem nil : Joint low high before [] before :=
  ⟨trivial, by simp, by simp, rfl⟩

theorem append (early : Joint low high before front middle)
    (late : Joint low high middle back after) : Joint low high before (front ++ back) after where
  admits := World.admits_append_iff.mpr ⟨early.admits, early.ends ▸ late.admits⟩
  own := by
    intro event member
    rcases List.mem_append.mp member with before | behind
    · exact early.own event before
    · exact late.own event behind
  honest := by
    intro event member
    rcases List.mem_append.mp member with before | behind
    · exact early.honest event before
    · exact late.honest event behind
  ends := by rw [World.after_append, early.ends, late.ends]

theorem of_records {exchanges : List Exchange}
    (records : Records caller before history exchanges after) (above : low ≤ caller)
    (below : caller < high) : Joint low high before history after where
  admits := records.admits
  own := fun event member => ⟨caller, above, below, records.own event member⟩
  honest := records.honest
  ends := records.ends

theorem of_above (joint : Joint (low + 1) high before history after) :
    Joint low high before history after where
  admits := joint.admits
  own := by
    intro event member
    obtain ⟨caller, above, below, own⟩ := joint.own event member
    exact ⟨caller, Nat.le_of_succ_le above, below, own⟩
  honest := joint.honest
  ends := joint.ends

theorem exchangesOf_eq_nil (joint : Joint low high before history after) {other : Nat}
    (outside : other < low ∨ high ≤ other) : exchangesOf other history = [] := by
  rw [exchangesOf, List.filterMap_eq_nil_iff]
  intro event member
  obtain ⟨caller, above, below, own⟩ := joint.own event member
  exact own.exchange?_eq_none (by omega)

end Joint

/-- How far operations have come, one by each caller from this one on. -/
def Standing (facilities : Facilities Store) (history : List Event) :
    Nat → List (Operation α) → List (Progress Store α) → Prop
  | _, [], [] => True
  | caller, operation :: operations, progress :: others =>
    progress.Stands facilities operation (exchangesOf caller history) ∧
      Standing facilities history (caller + 1) operations others
  | _, _, _ => False

theorem Standing.of_same {history later : List Event} {operations : List (Operation α)}
    {progress : List (Progress Store α)}
    (standing : Standing facilities history caller operations progress)
    (same : ∀ other, caller ≤ other → exchangesOf other later = exchangesOf other history) :
    Standing facilities later caller operations progress := by
  induction operations generalizing caller progress with
  | nil =>
    cases progress with
    | nil => trivial
    | cons first others => exact standing.elim
  | cons operation operations ih =>
    cases progress with
    | nil => exact standing.elim
    | cons first others =>
      refine ⟨?_, ih standing.2 fun other above => same other (Nat.le_of_succ_le above)⟩
      rw [same caller (Nat.le_refl _)]
      exact standing.1

/-- Operations are begun one after the other. -/
theorem joint_beginAll (fair : facilities.Fair) (operations : List (Operation α))
    {deployment : Deployment Store} (genuine : deployment.Genuine) (caller : Nat) :
    ∃ history, Joint caller (caller + operations.length) deployment.world history
        (beginAll facilities operations deployment).2.world ∧
      Standing facilities history caller operations
        (beginAll facilities operations deployment).1 ∧
      (beginAll facilities operations deployment).2.Genuine := by
  induction operations generalizing caller deployment with
  | nil => exact ⟨[], .nil, trivial, genuine⟩
  | cons operation operations ih =>
    obtain ⟨front, exchanges, first, stands, middle⟩ :=
      records_begin caller fair operation genuine
    obtain ⟨back, second, standing, last⟩ := ih middle (caller + 1)
    have bound : caller + 1 + operations.length = caller + (operation :: operations).length := by
      rw [List.length_cons]
      omega
    rw [bound] at second
    refine ⟨front ++ back, ?_, ⟨?_, ?_⟩, last⟩
    · exact (Joint.of_records first (Nat.le_refl _) (by simp)).append second.of_above
    · rw [exchangesOf_append, first.learned, second.exchangesOf_eq_nil (.inl (Nat.lt_succ_self _)),
        List.append_nil]
      exact stands
    · refine standing.of_same fun other above => ?_
      rw [exchangesOf_append, first.exchangesOf_eq_nil (by omega), List.nil_append]

/-- One of the operations goes on, and the others stay where they are. -/
theorem joint_resume (fair : facilities.Fair) (moment : Instant) {history : List Event}
    {operations : List (Operation α)} {progress : List (Progress Store α)}
    {deployment : Deployment Store}
    (standing : Standing facilities history caller operations progress)
    (genuine : deployment.Genuine) : ∃ more,
      Joint caller (caller + operations.length) deployment.world more
        (resume moment progress deployment).2.world ∧
      Standing facilities (history ++ more) caller operations
        (resume moment progress deployment).1 ∧
      (resume moment progress deployment).2.Genuine := by
  induction operations generalizing caller progress with
  | nil =>
    cases progress with
    | nil => exact ⟨[], .nil, trivial, genuine⟩
    | cons first others => exact standing.elim
  | cons operation operations ih =>
    have bound : caller + 1 + operations.length = caller + (operation :: operations).length := by
      rw [List.length_cons]
      omega
    cases progress with
    | nil => exact standing.elim
    | cons first others =>
      obtain ⟨stands, standing⟩ := standing
      -- If it is not the first that goes on, it takes no part in what happens.
      obtain ⟨more, joint, rest, later⟩ := ih standing
      rw [bound] at joint
      have idle : exchangesOf caller (history ++ more) = exchangesOf caller history := by
        rw [exchangesOf_append, joint.exchangesOf_eq_nil (.inl (Nat.lt_succ_self _)),
          List.append_nil]
      cases first with
      | ended value => exact ⟨more, joint.of_above, ⟨idle ▸ stands, rest⟩, later⟩
      | waiting awaited goOn =>
        unfold resume
        split
        case isTrue due =>
          obtain ⟨more, exchanges, records, yields, later⟩ := records_rest caller fair genuine
            stands (Nat.le_max_left deployment.clock moment)
          refine ⟨more, .of_records records (Nat.le_refl _) (by simp), ⟨?_, ?_⟩, later⟩
          · rw [exchangesOf_append, records.learned]
            exact yields
          · refine standing.of_same fun other above => ?_
            rw [exchangesOf_append, records.exchangesOf_eq_nil (by omega), List.append_nil]
        case isFalse waits => exact ⟨more, joint.of_above, ⟨idle ▸ stands, rest⟩, later⟩

theorem joint_resumeAll (fair : facilities.Fair) (count : Nat) {history : List Event}
    {operations : List (Operation α)} {progress : List (Progress Store α)}
    {deployment : Deployment Store}
    (standing : Standing facilities history caller operations progress)
    (genuine : deployment.Genuine) : ∃ more,
      Joint caller (caller + operations.length) deployment.world more
        (resumeAll count progress deployment).2.world ∧
      Standing facilities (history ++ more) caller operations
        (resumeAll count progress deployment).1 := by
  induction count generalizing history progress deployment with
  | zero => exact ⟨[], .nil, by rwa [List.append_nil]⟩
  | succ count ih =>
    unfold resumeAll
    split
    · exact ⟨[], .nil, by rwa [List.append_nil]⟩
    · obtain ⟨front, first, middle, after⟩ := joint_resume fair _ standing genuine
      obtain ⟨back, second, last⟩ := ih middle after
      exact ⟨front ++ back, first.append second, by rwa [← List.append_assoc]⟩

/-- The moments at which operations go on. -/
def waits (progress : List (Progress Store α)) : List Instant :=
  progress.filterMap Progress.moment?

theorem length_waits_resume {moment : Instant} {progress : List (Progress Store α)}
    (due : moment ∈ waits progress) (deployment : Deployment Store) :
    (waits (resume moment progress deployment).1).length + 1 = (waits progress).length := by
  induction progress with
  | nil => cases due
  | cons first others ih =>
    cases first with
    | ended value => exact ih due
    | waiting awaited goOn =>
      unfold resume
      split
      case isTrue now => rfl
      case isFalse later =>
        rcases List.mem_cons.mp due with same | behind
        · exact absurd same.symm later
        · exact congrArg (· + 1) (ih behind)

theorem waits_resumeAll {count : Nat} {progress : List (Progress Store α)}
    (enough : (waits progress).length ≤ count) (deployment : Deployment Store) :
    waits (resumeAll count progress deployment).1 = [] := by
  induction count generalizing progress deployment with
  | zero => exact List.eq_nil_of_length_eq_zero (Nat.eq_zero_of_le_zero enough)
  | succ count ih =>
    unfold resumeAll
    split
    case h_1 none => exact List.min?_eq_none_iff.mp none
    case h_2 moment first =>
      have fewer := length_waits_resume (List.min?_mem first) deployment
      exact ih (by omega) _

theorem Standing.length_waits_le {history : List Event} {operations : List (Operation α)}
    {progress : List (Progress Store α)}
    (standing : Standing facilities history caller operations progress) :
    (waits progress).length ≤ operations.length := by
  induction operations generalizing caller progress with
  | nil =>
    cases progress with
    | nil => exact Nat.le_refl _
    | cons first others => exact standing.elim
  | cons operation operations ih =>
    cases progress with
    | nil => exact standing.elim
    | cons first others =>
      have fewer := ih standing.2
      cases first with
      | ended value => exact Nat.le_succ_of_le fewer
      | waiting moment goOn => exact Nat.succ_le_succ fewer

theorem Standing.values {history : List Event} {operations : List (Operation α)}
    {progress : List (Progress Store α)}
    (standing : Standing facilities history caller operations progress)
    (finished : waits progress = []) :
    (progress.filterMap Progress.value?).length = operations.length ∧
      ∀ (index : Nat) (operation : Operation α) (value : α), operations[index]? = some operation →
        (progress.filterMap Progress.value?)[index]? = some value →
        operation.Yields (exchangesOf (caller + index) history) value := by
  induction operations generalizing caller progress with
  | nil =>
    cases progress with
    | nil => simp
    | cons first others => exact standing.elim
  | cons operation operations ih =>
    cases progress with
    | nil => exact standing.elim
    | cons first others =>
      cases first with
      | waiting moment goOn => cases finished
      | ended value =>
        obtain ⟨yields, standing⟩ := standing
        obtain ⟨length, each⟩ := ih standing finished
        refine ⟨congrArg (· + 1) length, ?_⟩
        rintro (_ | index) asked answer found answered
        · cases found
          cases answered
          exact yields
        · have yields := each index asked answer found answered
          rwa [Nat.add_assoc, Nat.add_comm 1 index] at yields

/-- Whatever a deployment does with operations side by side is a history in which each of them takes
the path to its value, and nobody else takes part. -/
theorem joint_runAll (fair : facilities.Fair) (operations : List (Operation α))
    {deployment : Deployment Store} (genuine : deployment.Genuine) : ∃ history,
      Joint 0 operations.length deployment.world history
        (runAll facilities operations deployment).2.world ∧
      (runAll facilities operations deployment).1.length = operations.length ∧
      ∀ (caller : Nat) (operation : Operation α) (value : α),
        operations[caller]? = some operation →
        (runAll facilities operations deployment).1[caller]? = some value →
        operation.Yields (exchangesOf caller history) value := by
  obtain ⟨front, first, begun, middle⟩ := joint_beginAll fair operations genuine 0
  obtain ⟨back, second, standing⟩ := joint_resumeAll fair operations.length begun middle
  rw [Nat.zero_add] at first second
  obtain ⟨length, each⟩ := standing.values (waits_resumeAll begun.length_waits_le _)
  refine ⟨front ++ back, first.append second, length, ?_⟩
  intro caller operation value found answered
  have yields := each caller operation value found answered
  rwa [Nat.zero_add] at yields

end Signet.Deployment
