import Mathlib.Data.List.Forall2
import Signet.Proofs.Deployment.Run
import Signet.Proofs.Operation.Secrecy

/-! Deployments that hold other secrets in the same places. What heeds no secret comes to the same end
in both, alone or beside others, and leaves them so. -/

namespace Signet

namespace Dict

variable {α β : Type}

/-- The same names, in the same order, with values that are related. -/
def Alike (related : α → β → Prop) (first : Dict α) (second : Dict β) : Prop :=
  List.Forall₂ (fun one other => one.1 = other.1 ∧ related one.2 other.2) first.entries
    second.entries

namespace Alike

variable {related : α → β → Prop} {first : Dict α} {second : Dict β}

theorem size (alike : Alike related first second) : first.size = second.size :=
  List.Forall₂.length_eq alike

theorem find? (alike : Alike related first second) (name : String) :
    Option.Rel related (first.find? name) (second.find? name) := by
  unfold Alike at alike
  unfold Dict.find?
  generalize first.entries = entries at alike ⊢
  generalize second.entries = others at alike ⊢
  induction alike with
  | nil => exact .none
  | @cons one other _ _ same _ ih =>
    obtain ⟨key, value⟩ := one
    obtain ⟨_, _⟩ := other
    obtain ⟨rfl, values⟩ := same
    by_cases found : key = name
    · simpa [found] using values
    · simpa [found] using ih

theorem keep (alike : Alike related first second) {holds : String → α → Bool}
    {also : String → β → Bool}
    (same : ∀ name one other, related one other → holds name one = also name other) :
    Alike related (first.keep holds) (second.keep also) := by
  refine List.rel_filter ?_ alike
  rintro ⟨name, one⟩ ⟨_, other⟩ ⟨rfl, values⟩
  exact Bool.eq_iff_iff.mp (same name one other values)

theorem erase (alike : Alike related first second) (name : String) :
    Alike related (first.erase name) (second.erase name) :=
  alike.keep fun _ _ _ _ => rfl

theorem insert (alike : Alike related first second) (name : String) {one : α} {other : β}
    (same : related one other) :
    Alike related (first.insert name one) (second.insert name other) :=
  List.rel_append (alike.erase name) (.cons ⟨rfl, same⟩ .nil)

end Alike
end Dict

namespace Matching

variable {matching : Matching} {first second : Store} {now : Instant} {key : String}

/-- Entries with secrets in the same place, to be seen as long as each other. -/
def Entries (matching : Matching) (one other : Entry) : Prop :=
  matching.pairs one.secret other.secret ∧ one.deadline = other.deadline

theorem isLive_eq {one other : Entry} (same : matching.Entries one other) (now : Instant) :
    one.isLive now = other.isLive now := by
  obtain ⟨paired, deadline⟩ := same
  obtain ⟨full, also⟩ := matching.full paired
  rw [Entry.isLive, Entry.isLive, deadline, full, also]

/-- Stores with such entries under the same keys. -/
def Stores (matching : Matching) (first second : Store) : Prop :=
  Dict.Alike matching.Entries first.entries second.entries

theorem live? (stores : matching.Stores first second) (now : Instant) (key : String) :
    Option.Rel matching.Entries (first.live? now key) (second.live? now key) := by
  unfold Store.live?
  have found := Dict.Alike.find? stores key
  generalize first.entries.find? key = one at found
  generalize second.entries.find? key = other at found
  cases found with
  | none => exact .none
  | some same =>
    rw [Option.filter_some, Option.filter_some, isLive_eq same]
    split
    · exact .some same
    · exact .none

theorem held (stores : matching.Stores first second) (now : Instant) (key : String) :
    Option.Rel matching.pairs (World.held ⟨now, first⟩ key) (World.held ⟨now, second⟩ key) := by
  have found := live? stores now key
  unfold World.held
  generalize first.live? now key = one at found
  generalize second.live? now key = other at found
  cases found with
  | none => exact .none
  | some same => exact .some same.1

/-- Purges of such stores drop as many entries, and leave such stores. -/
theorem purge (stores : matching.Stores first second) (now : Instant) :
    (first.purge now).1 = (second.purge now).1 ∧
      matching.Stores (first.purge now).2 (second.purge now).2 := by
  have kept : matching.Stores (first.purge now).2 (second.purge now).2 :=
    Dict.Alike.keep stores fun _ _ _ same => isLive_eq same now
  refine ⟨?_, kept⟩
  show first.entries.size - (first.purge now).2.entries.size =
    second.entries.size - (second.purge now).2.entries.size
  rw [Dict.Alike.size stores, Dict.Alike.size kept]

/-- Claims with secrets in the same place are answered with secrets in the same place. -/
theorem claim (stores : matching.Stores first second) (now : Instant) (key : String)
    {fresh other : Secret} (paired : matching.pairs fresh other) (ttl : Span) :
    Agree (fun one two => matching.pairs one.1 two.1 ∧ matching.Stores one.2 two.2)
      (first.claim now key fresh ttl) (second.claim now key other ttl) := by
  unfold Store.claim
  cases Store.deadline now ttl with
  | error error => exact .error error
  | ok renewed =>
    have found := live? stores now key
    generalize first.live? now key = one at found
    generalize second.live? now key = two at found
    cases found with
    | none => exact .ok ⟨paired, Dict.Alike.insert stores key ⟨paired, rfl⟩⟩
    | some same =>
      refine .ok ⟨same.1, Dict.Alike.insert stores key ⟨same.1, ?_⟩⟩
      exact congrArg (max · renewed) same.2

end Matching

namespace Deployment

variable {matching : Matching} {first second : Deployment Store} {one other : Facilities Store}
  {α β : Type} {related : α → β → Prop}

/-- Deployments that differ in nothing but the secrets that they hold. -/
structure Twin (matching : Matching) (first second : Deployment Store) : Prop where
  wall : first.wall = second.wall
  clock : first.clock = second.clock
  stores : matching.Stores first.store second.store
  troubles : first.troubles = second.troubles
  genuine : first.Genuine
  draws : first.draws = second.draws
  reports : first.reports = second.reports

/-- What draws secrets in the same places, or fails to, and is cancelled at the same moment. -/
structure Facilities.Twin (matching : Matching) (one other : Facilities Store) : Prop where
  random : ∀ draw length, length ≠ 0 → Agree (fun left right => matching.pairs ⟨left⟩ ⟨right⟩)
    (one.random draw length) (other.random draw length)
  cancellation : one.cancellation = other.cancellation

theorem Twin.report (alike : Twin matching first second) (events : List Log.Event) :
    Twin matching (first.report events) (second.report events) :=
  { alike with
    genuine := alike.genuine
    reports := congrArg (· ++ events) alike.reports }

theorem Twin.at_moment (alike : Twin matching first second) (moment : Instant) :
    Twin matching { first with clock := moment } { second with clock := moment } :=
  { alike with
    genuine := alike.genuine
    clock := rfl }

section

variable {call twin : StoreCall} {agree : call.Answer → twin.Answer → Prop}

theorem next_twin (calls : StoreCall.Twin matching call twin agree) (troubles : Troubles) :
    troubles.next call = troubles.next twin ∧ troubles.drop call = troubles.drop twin := by
  cases calls with
  | get key => exact ⟨rfl, rfl⟩
  | claim key ttl paired => exact ⟨rfl, rfl⟩
  | delete key => exact ⟨rfl, rfl⟩

/-- Calls that differ in secrets alone are waited for as long, and end in the same way. -/
theorem Twin.start (alike : Twin matching first second)
    (facilities : Facilities.Twin matching one other)
    (calls : StoreCall.Twin matching call twin agree) (within : Span) :
    (first.start one call within).1 = (second.start other twin within).1 ∧
      (∀ secret, (first.start one call within).1.ending ≠ .met (.answering secret)) ∧
      Twin matching (first.start one call within).2 (second.start other twin within).2 := by
  obtain ⟨-, unscripted, -, genuine⟩ := start_spec one alike.genuine call within
  obtain ⟨next, dropped⟩ := next_twin calls second.troubles
  have same : (first.start one call within).1 = (second.start other twin within).1 := by
    unfold Deployment.start
    rw [facilities.cancellation, alike.clock, alike.troubles, next]
    split <;> rfl
  refine ⟨same, unscripted, ?_⟩
  revert genuine
  unfold Deployment.start
  rw [facilities.cancellation]
  split
  · exact fun _ => alike
  · intro genuine
    exact { alike with
      genuine := genuine
      troubles := by rw [alike.troubles, dropped] }

/-- Calls that differ in secrets alone reach the store alike. -/
theorem Twin.reach (alike : Twin matching first second)
    (calls : StoreCall.Twin matching call twin agree) :
    Agree agree (first.reach call).1 (second.reach twin).1 ∧
      Twin matching (first.reach call).2 (second.reach twin).2 := by
  obtain ⟨_, clock, _, _, _, _⟩ := second
  obtain rfl : first.clock = clock := alike.clock
  have left : ∀ store store' : Store, matching.Stores store store' →
      Twin matching ({ first with store }.report [])
        (Deployment.report ⟨_, first.clock, store', _, _, _⟩ []) :=
    fun store store' stores => { alike with
      genuine := alike.genuine
      stores := stores
      reports := congrArg (· ++ []) alike.reports }
  cases calls with
  | get key =>
    refine ⟨?_, left _ _ alike.stores⟩
    show Agree _ (first.world.answer (.get key)) (World.answer ⟨first.clock, _⟩ (.get key))
    rw [World.answer_get, World.answer_get]
    exact .ok (Matching.held alike.stores first.clock key)
  | @claim key fresh also ttl paired =>
    have claimed := Matching.claim alike.stores first.clock key paired ttl
    simp only [Deployment.reach, SecretStore.answer, SecretStore.claim]
    generalize first.store.claim first.clock key fresh ttl = one at claimed ⊢
    generalize Store.claim _ first.clock key also ttl = two at claimed ⊢
    cases claimed with
    | ok same => exact ⟨.ok same.1, left _ _ same.2⟩
    | error error => exact ⟨.error _, left _ _ alike.stores⟩
  | delete key => exact ⟨.ok rfl, left _ _ (Dict.Alike.erase alike.stores key)⟩

/-- However the wait for such calls ends, they are answered alike. -/
theorem Twin.finish (alike : Twin matching first second)
    (calls : StoreCall.Twin matching call twin agree) {ending : Ending}
    (unscripted : ∀ secret, ending ≠ .met (.answering secret)) :
    Agree agree (first.finish call ending).1 (second.finish twin ending).1 ∧
      Twin matching (first.finish call ending).2 (second.finish twin ending).2 := by
  unfold Deployment.finish
  split
  case h_4 secret => exact absurd rfl (unscripted secret)
  case h_5 => exact alike.reach calls
  all_goals exact ⟨.error _, alike⟩

end

theorem Twin.answer (alike : Twin matching first second)
    (facilities : Facilities.Twin matching one other) {query twin : Query}
    {agree : query.Answer → twin.Answer → Prop} (queries : Query.Twin matching query twin agree) :
    agree (Deployment.answer one query first).1 (Deployment.answer other twin second).1 ∧
      Twin matching (Deployment.answer one query first).2
        (Deployment.answer other twin second).2 := by
  cases queries with
  | @fresh length some =>
    have drawn := facilities.random second.draws length some
    simp only [Deployment.answer, Deployment.fresh, if_neg some, alike.draws]
    exact ⟨drawn.map fun _ _ paired => paired, { alike with genuine := alike.genuine, draws := rfl }⟩
  | time =>
    have now : first.now = second.now := by rw [Deployment.now, Deployment.now, alike.wall]
    exact ⟨now, alike⟩
  | store within calls =>
    obtain ⟨same, unscripted, started⟩ := alike.start facilities calls within
    simp only [Deployment.answer, Deployment.call]
    rw [← same]
    exact (started.at_moment _).finish calls unscripted
  | report event => exact ⟨rfl, alike.report [event]⟩

/-- What heeds no secret comes to related values. -/
theorem Twin.run {operation : Operation α} {twin : Operation β}
    (alike : Twin matching first second) (facilities : Facilities.Twin matching one other)
    (parallel : Operation.Parallel matching related operation twin) :
    related (first.run one operation).1 (second.run other twin).1 ∧
      Twin matching (first.run one operation).2 (second.run other twin).2 := by
  induction parallel generalizing first second with
  | done last => exact ⟨last, alike⟩
  | ask twins _ ih =>
    obtain ⟨agree, later⟩ := alike.answer facilities twins
    exact ih _ _ agree later

/-- Operations that have come as far, and go on alike. -/
inductive Progress.Twin (matching : Matching) (related : α → β → Prop) :
    Progress Store α → Progress Store β → Prop where
  | ended {value : α} {other : β} (last : related value other) :
      Progress.Twin matching related (.ended value) (.ended other)
  | waiting (moment : Instant) {rest : Deployment Store → α × Deployment Store}
      {others : Deployment Store → β × Deployment Store}
      (goesOn : ∀ first second, Deployment.Twin matching first second →
        related (rest first).1 (others second).1 ∧
          Deployment.Twin matching (rest first).2 (others second).2) :
      Progress.Twin matching related (.waiting moment rest) (.waiting moment others)

theorem Twin.begin {operation : Operation α} {twin : Operation β}
    (alike : Twin matching first second) (facilities : Facilities.Twin matching one other)
    (parallel : Operation.Parallel matching related operation twin) :
    Progress.Twin matching related (Deployment.begin one operation first).1
        (Deployment.begin other twin second).1 ∧
      Twin matching (Deployment.begin one operation first).2
        (Deployment.begin other twin second).2 := by
  induction parallel generalizing first second with
  | done last => exact ⟨.ended last, alike⟩
  | ask twins others ih =>
    -- Only a call to the store may have to be waited for.
    cases twins with
    | store within calls =>
      obtain ⟨same, unscripted, started⟩ := alike.start facilities calls within
      simp only [Deployment.begin]
      rw [← same, ← started.clock]
      split
      case isTrue finished =>
        obtain ⟨agree, later⟩ := started.finish calls unscripted
        exact ih _ _ agree later
      case isFalse waits =>
        refine ⟨.waiting _ fun left right before => ?_, started⟩
        obtain ⟨agree, later⟩ := before.finish calls unscripted
        exact later.run facilities (others _ _ agree)
    | fresh some =>
      obtain ⟨agree, later⟩ := alike.answer facilities (.fresh some)
      exact ih _ _ agree later
    | time =>
      obtain ⟨agree, later⟩ := alike.answer facilities .time
      exact ih _ _ agree later
    | report event =>
      obtain ⟨agree, later⟩ := alike.answer facilities (.report event)
      exact ih _ _ agree later

theorem Twin.beginAll {operations : List (Operation α)} {twins : List (Operation β)}
    (alike : Twin matching first second) (facilities : Facilities.Twin matching one other)
    (parallel : List.Forall₂ (Operation.Parallel matching related) operations twins) :
    List.Forall₂ (Progress.Twin matching related) (Deployment.beginAll one operations first).1
        (Deployment.beginAll other twins second).1 ∧
      Twin matching (Deployment.beginAll one operations first).2
        (Deployment.beginAll other twins second).2 := by
  induction parallel generalizing first second with
  | nil => exact ⟨.nil, alike⟩
  | cons both _ ih =>
    obtain ⟨begun, middle⟩ := alike.begin facilities both
    obtain ⟨others, later⟩ := ih middle
    exact ⟨.cons begun others, later⟩

section

variable {progress : List (Progress Store α)} {twins : List (Progress Store β)}

/-- Of operations that have come as far, the same one goes on. -/
theorem Twin.resume (alike : Twin matching first second) (moment : Instant)
    (each : List.Forall₂ (Progress.Twin matching related) progress twins) :
    List.Forall₂ (Progress.Twin matching related) (Deployment.resume moment progress first).1
        (Deployment.resume moment twins second).1 ∧
      Twin matching (Deployment.resume moment progress first).2
        (Deployment.resume moment twins second).2 := by
  induction each with
  | nil => exact ⟨.nil, alike⟩
  | cons both others ih =>
    obtain ⟨rest, later⟩ := ih
    cases both with
    | ended last => exact ⟨.cons (.ended last) rest, later⟩
    | waiting awaited goesOn =>
      unfold Deployment.resume
      split
      case isTrue due =>
        obtain ⟨last, after⟩ := goesOn _ _ (alike.at_moment (max first.clock moment))
        rw [← alike.clock]
        exact ⟨.cons (.ended last) others, after⟩
      case isFalse waits => exact ⟨.cons (.waiting awaited goesOn) rest, later⟩

theorem moments_eq (each : List.Forall₂ (Progress.Twin matching related) progress twins) :
    progress.filterMap Progress.moment? = twins.filterMap Progress.moment? := by
  induction each with
  | nil => rfl
  | cons both _ ih =>
    cases both with
    | ended last => exact ih
    | waiting moment goesOn => exact congrArg (moment :: ·) ih

theorem values_related (each : List.Forall₂ (Progress.Twin matching related) progress twins) :
    List.Forall₂ related (progress.filterMap Progress.value?)
      (twins.filterMap Progress.value?) := by
  refine List.rel_filterMap ?_ each
  rintro _ _ (last | _)
  · exact .some last
  · exact .none

theorem Twin.resumeAll (alike : Twin matching first second) (count : Nat)
    (each : List.Forall₂ (Progress.Twin matching related) progress twins) :
    List.Forall₂ (Progress.Twin matching related) (Deployment.resumeAll count progress first).1
        (Deployment.resumeAll count twins second).1 ∧
      Twin matching (Deployment.resumeAll count progress first).2
        (Deployment.resumeAll count twins second).2 := by
  induction count generalizing progress twins first second with
  | zero => exact ⟨each, alike⟩
  | succ count ih =>
    unfold Deployment.resumeAll
    rw [← moments_eq each]
    split
    case h_1 => exact ⟨each, alike⟩
    case h_2 moment _ =>
      obtain ⟨gone, later⟩ := alike.resume moment each
      exact ih later gone

end

/-- Operations that heed no secret come to related values side by side, too. -/
theorem Twin.runAll {operations : List (Operation α)} {twins : List (Operation β)}
    (alike : Twin matching first second) (facilities : Facilities.Twin matching one other)
    (parallel : List.Forall₂ (Operation.Parallel matching related) operations twins) :
    List.Forall₂ related (Deployment.runAll one operations first).1
        (Deployment.runAll other twins second).1 ∧
      Twin matching (Deployment.runAll one operations first).2
        (Deployment.runAll other twins second).2 := by
  obtain ⟨begun, middle⟩ := alike.beginAll facilities parallel
  obtain ⟨ended, later⟩ := middle.resumeAll operations.length begun
  unfold Deployment.runAll
  rw [← parallel.length_eq]
  exact ⟨values_related ended, later⟩

end Deployment
end Signet
