import Signet.Proofs.Store.Holding

/-! The task that purges a store which is served. It wakes at each tick that has come, perhaps late
and for several at once, while the store is used and its clock goes on. -/

namespace Signet

/-- Time from one tick of the task to the next. -/
def period : Span := Span.ofMillis Store.purgeInterval

/-- A store and its clock, with a task that waits for a tick. -/
structure Attended extends Site Store where
  due : Instant

/-- A move of those who use the store, or a tick that the task answers with a purge. -/
inductive Happening where
  | move (move : Move)
  | tick

namespace Attended

/-- The task starts. Its first tick, which comes at once, purges nothing. -/
def opened (start : Instant) (store : Store) : Attended := ⟨⟨start, store⟩, start + period⟩

def step (attended : Attended) : Happening → Attended
  | .move move => { attended with toSite := attended.toSite.step move }
  | .tick => { attended with
      store := (attended.store.purge attended.clock).2
      due := attended.due + period }

def after (attended : Attended) (history : List Happening) : Attended :=
  history.foldl step attended

/-- Ticks come in time or late, and never early. -/
def Admits (attended : Attended) : List Happening → Prop
  | [] => True
  | .move move :: rest => (attended.step (.move move)).Admits rest
  | .tick :: rest => attended.due ≤ attended.clock ∧ (attended.step .tick).Admits rest

/-- No tick has come that the task has not answered. -/
def Settled (attended : Attended) : Prop := attended.clock < attended.due

instance decidableAdmits (attended : Attended) :
    (history : List Happening) → Decidable (attended.Admits history)
  | [] => .isTrue trivial
  | .move move :: rest => decidableAdmits (attended.step (.move move)) rest
  | .tick :: rest => @instDecidableAnd _ _ _ (decidableAdmits (attended.step .tick) rest)

instance (attended : Attended) : Decidable attended.Settled :=
  inferInstanceAs (Decidable (attended.clock < attended.due))

/-- A use of the store as it is writes this entry. -/
def Writes (attended : Attended) (access : Access) (key : String) (entry : Entry) : Prop :=
  Use.Writes ⟨attended.clock, access⟩ key
    (∃ seen, attended.store.live? attended.clock key = some seen) entry

/-- In the course of some history an entry has been written under a key, and perhaps renewed. -/
def Written (attended : Attended) (history : List Happening) (key : String) (entry : Entry) :
    Prop :=
  ∃ front access back old, history = front ++ .move (.use access) :: back ∧
    (attended.after front).Writes access key old ∧ old.Renewed entry

variable {attended : Attended} {front back history : List Happening} {key : String}
  {old entry : Entry}

@[simp] theorem after_nil : attended.after [] = attended := rfl

@[simp] theorem after_cons (happening : Happening) :
    attended.after (happening :: history) = (attended.step happening).after history := rfl

theorem after_append : attended.after (front ++ back) = (attended.after front).after back :=
  List.foldl_append

theorem admits_append_iff : attended.Admits (front ++ back) ↔
    attended.Admits front ∧ (attended.after front).Admits back := by
  induction front generalizing attended with
  | nil => simp [Admits]
  | cons happening front ih =>
    cases happening with
    | move move => simp [Admits, ih]
    | tick => simp [Admits, ih, and_assoc]

theorem clock_le_step (attended : Attended) (happening : Happening) :
    attended.clock ≤ (attended.step happening).clock := by
  cases happening with
  | tick => exact Nat.le_refl _
  | move move =>
    cases move with
    | use access => exact Nat.le_refl _
    | wait span => exact Nat.le_add_right ..

theorem clock_le_after (attended : Attended) (history : List Happening) :
    attended.clock ≤ (attended.after history).clock := by
  induction history generalizing attended with
  | nil => exact Nat.le_refl _
  | cons happening history ih => exact Nat.le_trans (attended.clock_le_step happening) (ih _)

namespace Written

theorem renewed (written : attended.Written history key old) (renewed : old.Renewed entry) :
    attended.Written history key entry := by
  obtain ⟨front, access, back, first, split, writes, since⟩ := written
  exact ⟨front, access, back, first, split, writes, since.trans renewed⟩

theorem append_right (written : attended.Written front key entry) (back : List Happening) :
    attended.Written (front ++ back) key entry := by
  obtain ⟨before, access, after, first, rfl, writes, since⟩ := written
  exact ⟨before, access, after ++ back, first, by simp, writes, since⟩

theorem append_left (front : List Happening)
    (written : (attended.after front).Written back key entry) :
    attended.Written (front ++ back) key entry := by
  obtain ⟨before, access, after, first, rfl, writes, since⟩ := written
  rw [← after_append] at writes
  exact ⟨front ++ before, access, after, first, by simp, writes, since⟩

end Written

/-- What holds after a step was written by it, unless it held before. -/
def Rooted (holds : Attended → String → Entry → Prop) : Prop :=
  ∀ attended happening key entry, holds (attended.step happening) key entry →
    attended.Written [happening] key entry ∨
      ∃ old, holds attended key old ∧ old.Renewed entry

theorem Rooted.after {holds : Attended → String → Entry → Prop} (rooted : Rooted holds)
    (found : holds (attended.after history) key entry) :
    attended.Written history key entry ∨ ∃ old, holds attended key old ∧ old.Renewed entry := by
  induction history generalizing attended with
  | nil => exact .inr ⟨entry, found, .refl entry⟩
  | cons happening history ih =>
    rcases ih found with written | ⟨middle, held, renewed⟩
    · exact .inl (written.append_left [happening])
    · rcases rooted attended happening key middle held with written | ⟨old, former, before⟩
      · exact .inl ((written.append_right history).renewed renewed)
      · exact .inr ⟨old, former, before.trans renewed⟩

theorem written_of_writes {access : Access} (writes : attended.Writes access key entry) :
    attended.Written [.move (.use access)] key entry :=
  ⟨[], access, [], entry, rfl, writes, .refl entry⟩

theorem rooted_held :
    Rooted fun attended key entry => attended.store.entries.find? key = some entry := by
  intro attended happening key entry found
  cases happening with
  | tick =>
    have kept := Store.find?_purge_eq_some_iff.mp found
    exact .inr ⟨entry, kept.1, .refl entry⟩
  | move move =>
    cases move with
    | wait span => exact .inr ⟨entry, found, .refl entry⟩
    | use access =>
      simp only [step, Site.step, Access.after_outcome] at found
      rcases Access.held_after found with writes | held | ⟨old, live, renewed⟩
      · exact .inl (written_of_writes writes)
      · exact .inr ⟨entry, held, .refl entry⟩
      · exact .inr ⟨old, (Store.live?_eq_some_iff.mp live).1, renewed⟩

theorem rooted_shown :
    Rooted fun attended key entry => attended.store.live? attended.clock key = some entry := by
  intro attended happening key entry found
  cases happening with
  | tick =>
    have live := (Store.live?_purge (Nat.le_refl _)).symm.trans found
    exact .inr ⟨entry, live, .refl entry⟩
  | move move =>
    cases move with
    | wait span =>
      obtain ⟨held, ahead, filled⟩ := Store.live?_eq_some_iff.mp found
      have live := Store.live?_eq_some_iff.mpr
        ⟨held, Nat.lt_of_le_of_lt (Nat.le_add_right attended.clock span) ahead, filled⟩
      exact .inr ⟨entry, live, .refl entry⟩
    | use access =>
      simp only [step, Site.step, Access.after_outcome] at found
      obtain ⟨held, visible⟩ := Store.live?_eq_some_iff.mp found
      rcases Access.held_after held with writes | held | ⟨old, live, renewed⟩
      · exact .inl (written_of_writes writes)
      · exact .inr ⟨entry, Store.live?_eq_some_iff.mpr ⟨held, visible⟩, .refl entry⟩
      · exact .inr ⟨old, live, renewed⟩

/-- What is held after a tick and the moves since then was written by them, or was visible when the
task purged. -/
theorem held_since_tick (found :
      ((attended.step .tick).after history).store.entries.find? key = some entry) :
    (attended.step .tick).Written history key entry ∨
      ∃ old, attended.store.live? attended.clock key = some old ∧ old.Renewed entry := by
  rcases rooted_held.after found with written | ⟨old, held, renewed⟩
  · exact .inl written
  · exact .inr ⟨old, (Store.find?_purge attended.store attended.clock key).symm.trans held, renewed⟩

/-- The moves among what has happened. -/
def movesOf (history : List Happening) : List Move :=
  history.filterMap fun
    | .move move => some move
    | .tick => none

/-- What has happened ends in a tick and moves, unless no tick has come at all. -/
theorem latest_tick (history : List Happening) :
    (∃ moves : List Move, history = moves.map .move) ∨
      ∃ before, ∃ moves : List Move, history = before ++ .tick :: moves.map .move := by
  induction history with
  | nil => exact .inl ⟨[], rfl⟩
  | cons happening history ih =>
    rcases ih with ⟨moves, rfl⟩ | ⟨before, moves, rfl⟩
    · cases happening with
      | move move => exact .inl ⟨move :: moves, rfl⟩
      | tick => exact .inr ⟨[], moves, rfl⟩
    · exact .inr ⟨happening :: before, moves, rfl⟩

theorem due_after_moves (attended : Attended) (moves : List Move) :
    (attended.after (moves.map .move)).due = attended.due := by
  induction moves generalizing attended with
  | nil => rfl
  | cons move moves ih => exact ih (attended.step (.move move))

theorem due_after (attended : Attended) (history : List Happening) :
    ∃ passed, (attended.after history).due = attended.due + passed * period := by
  induction history generalizing attended with
  | nil => exact ⟨0, by simp⟩
  | cons happening history ih =>
    obtain ⟨passed, later⟩ := ih (attended.step happening)
    cases happening with
    | move move => exact ⟨passed, later⟩
    | tick =>
      refine ⟨passed + 1, later.trans ?_⟩
      rw [step, Nat.succ_mul, Nat.add_assoc, Nat.add_comm period]

/-- The tick for which the task waits is in the past once it has been settled. -/
theorem exists_latest_tick (settled : (attended.after history).Settled)
    (came : attended.due ≤ (attended.after history).clock) :
    ∃ before, ∃ moves : List Move, history = before ++ .tick :: moves.map .move := by
  rcases latest_tick history with ⟨moves, rfl⟩ | split
  · rw [Settled, due_after_moves] at settled
    exact absurd settled (Nat.not_lt.mpr came)
  · exact split

/-- A key that showed nothing before the tick for which the task waited holds, after it, only what
has been written meanwhile. -/
theorem written_of_hidden (settled : (attended.after history).Settled)
    (came : attended.due ≤ (attended.after history).clock)
    (hidden : attended.store.live? attended.clock key = none)
    (found : (attended.after history).store.entries.find? key = some entry) :
    attended.Written history key entry := by
  obtain ⟨before, moves, rfl⟩ := exists_latest_tick settled came
  rw [after_append, after_cons] at found
  -- What was visible at the latest tick has been written on the way there.
  rcases held_since_tick found with written | ⟨old, live, renewed⟩
  · have later : attended.Written (before ++ [.tick] ++ moves.map .move) key entry := by
      apply Written.append_left
      rwa [after_append]
    rwa [List.append_assoc] at later
  · rcases rooted_shown.after live with written | ⟨older, shown, -⟩
    · exact (written.renewed renewed).append_right _
    · rw [hidden] at shown
      cases shown

/-- The task has answered every tick that has come. -/
structure CaughtUp (start : Instant) (store : Store) (history : List Happening) : Prop where
  /-- What is held was written after the purge of the latest tick, or was visible then. -/
  recent : ∃ before, ∃ moves : List Move, history = before ++ .tick :: moves.map .move ∧
    ∃ asked, asked = (opened start store).after before ∧
      asked.due = start +
        (((opened start store).after history).clock - start) / period * period ∧
      asked.due ≤ asked.clock ∧
      ∀ key entry, ((opened start store).after history).store.entries.find? key = some entry →
        (asked.step .tick).Written (moves.map .move) key entry ∨
          ∃ old, asked.store.live? asked.clock key = some old ∧ old.Renewed entry
  /-- Once the next tick has come, a key that showed nothing holds only what was written since. -/
  gone : ∀ earlier later, history = earlier ++ later →
    ((opened start store).after earlier).due ≤ ((opened start store).after history).clock →
    ∀ key, ((opened start store).after earlier).store.live?
        ((opened start store).after earlier).clock key = none →
      ∀ entry, ((opened start store).after history).store.entries.find? key = some entry →
        ((opened start store).after earlier).Written later key entry

/-- A store that nothing purges goes through the same moves and shows the same. -/
structure Harmless (start : Instant) (store : Store) (history : List Happening) : Prop where
  clock : ((opened start store).after history).clock =
    ((⟨start, store⟩ : Site Store).after (movesOf history)).clock
  shown : ((opened start store).after history).store.Resembles
    ((⟨start, store⟩ : Site Store).after (movesOf history)).store
    ((opened start store).after history).clock

variable {start : Instant} {store : Store}

/-- The latest multiple of the period. -/
theorem latest_multiple {now due count : Nat} (counted : due = start + period + count * period)
    (came : due ≤ now) (ahead : now < due + period) :
    due = start + (now - start) / period * period := by
  have passed : (now - start) / period = count + 1 := by
    rw [Nat.div_eq_iff (by decide), Nat.succ_mul]
    omega
  rw [passed, Nat.succ_mul]
  omega

theorem caughtUp (admitted : (opened start store).Admits history)
    (settled : ((opened start store).after history).Settled)
    (came : start + period ≤ ((opened start store).after history).clock) :
    CaughtUp start store history where
  recent := by
    obtain ⟨before, moves, rfl⟩ := exists_latest_tick settled came
    have asked := (admits_append_iff.mp admitted).2.1
    obtain ⟨count, counted⟩ := (opened start store).due_after before
    refine ⟨before, moves, rfl, _, rfl, ?_, asked, ?_⟩
    · rw [Settled, after_append, after_cons, due_after_moves] at settled
      have later := clock_le_after (((opened start store).after before).step .tick)
        (moves.map .move)
      rw [after_append, after_cons]
      exact latest_multiple counted (Nat.le_trans asked later) settled
    · intro key entry found
      rw [after_append, after_cons] at found
      exact held_since_tick found
  gone := by
    rintro earlier later rfl came key hidden entry found
    rw [after_append] at settled came found
    exact written_of_hidden settled came hidden found

theorem resembles_after (attended : Attended) (site : Site Store) (history : List Happening)
    (together : attended.clock = site.clock)
    (alike : attended.store.Resembles site.store attended.clock) :
    (attended.after history).clock = (site.after (movesOf history)).clock ∧
      (attended.after history).store.Resembles (site.after (movesOf history)).store
        (attended.after history).clock := by
  induction history generalizing attended site with
  | nil => exact ⟨together, alike⟩
  | cons happening history ih =>
    cases happening with
    | tick => exact ih (attended.step .tick) site together alike.purge
    | move move =>
      apply ih (attended.step (.move move)) (site.step move)
      · cases move with
        | use access => exact together
        | wait span => exact congrArg (· + span) together
      · cases move with
        | wait span => exact alike.later (Nat.le_add_right ..)
        | use access =>
          simp only [step, Site.step, Access.after_outcome, ← together]
          exact alike.after access

theorem harmless (start : Instant) (store : Store) (history : List Happening) :
    Harmless start store history := by
  have both := resembles_after (opened start store) ⟨start, store⟩ history rfl fun _ _ _ => rfl
  exact ⟨both.1, both.2⟩

/-- Ticks that are answered together. -/
theorem after_ticks (attended : Attended) (count : Nat) :
    attended.after (List.replicate count .tick) = { attended with
      store := if 0 < count then (attended.store.purge attended.clock).2 else attended.store
      due := attended.due + count * period } := by
  induction count generalizing attended with
  | zero => simp
  | succ count ih =>
    rw [List.replicate_succ, after_cons, ih]
    by_cases more : 0 < count <;>
      simp [step, more, Store.purge_again, Nat.succ_mul, Nat.add_assoc, Nat.add_comm period]

theorem admits_ticks {count : Nat}
    (came : attended.due + count * period ≤ attended.clock + period) :
    attended.Admits (List.replicate count .tick) := by
  induction count generalizing attended with
  | zero => trivial
  | succ count ih =>
    rw [Nat.succ_mul, ← Nat.add_assoc] at came
    have early : attended.due + count * period ≤ attended.clock := Nat.le_of_add_le_add_right came
    refine ⟨Nat.le_trans (Nat.le_add_right ..) early, ih ?_⟩
    rw [step, Nat.add_right_comm]
    exact Nat.add_le_add_right early period

end Attended

theorem Store.purgeTicks_snd (store : Store) (start before now : Instant) :
    (store.purgeTicks start before now).2 =
      if (before - start) / period < (now - start) / period then (store.purge now).2
      else store := by
  unfold purgeTicks period
  dsimp only
  split <;> rfl

/-- A move at a served store, which then is purged if a tick has been passed. -/
def Site.attend (start : Instant) (site : Site Store) (move : Move) : Site Store :=
  let moved := site.step move
  { moved with store := (moved.store.purgeTicks start site.clock moved.clock).2 }

namespace Attended

/-- The task waits for the first tick that has not come. -/
structure OnTime (start : Instant) (attended : Attended) : Prop where
  started : start ≤ attended.clock
  next : attended.due = start + ((attended.clock - start) / period + 1) * period

theorem onTime_opened (start : Instant) (store : Store) : OnTime start (opened start store) :=
  ⟨Nat.le_refl _, by simp [opened]⟩

variable {start : Instant} {attended : Attended}

theorem OnTime.settled (onTime : OnTime start attended) : attended.Settled := by
  have ahead : attended.clock - start < ((attended.clock - start) / period + 1) * period := by
    rw [Nat.succ_mul]
    exact Nat.lt_div_mul_add (by decide)
  rw [Settled, onTime.next]
  exact (Nat.sub_lt_iff_lt_add' onTime.started).mp ahead

/-- A move and the ticks that it passes come to what a served store does. -/
theorem OnTime.attend (onTime : OnTime start attended) (move : Move) : ∃ count,
    attended.Admits (.move move :: List.replicate count .tick) ∧
      OnTime start (attended.after (.move move :: List.replicate count .tick)) ∧
      (attended.after (.move move :: List.replicate count .tick)).toSite =
        attended.toSite.attend start move := by
  have grown := attended.clock_le_step (.move move)
  have due : (attended.step (.move move)).due = attended.due := rfl
  have started := Nat.le_trans onTime.started grown
  -- As many ticks are answered as the clock has passed.
  have more := Nat.div_le_div_right (c := period) (Nat.sub_le_sub_right grown start)
  obtain ⟨count, passed⟩ := Nat.exists_eq_add_of_le more
  have next : attended.due + count * period =
      start + (((attended.step (.move move)).clock - start) / period + 1) * period := by
    rw [onTime.next, passed, Nat.add_assoc start, ← Nat.add_mul, Nat.add_right_comm]
  refine ⟨count, admits_ticks ?_, ⟨?_, ?_⟩, ?_⟩
  · rw [due, next, Nat.succ_mul, ← Nat.add_assoc]
    apply Nat.add_le_add_right
    exact Nat.add_le_of_le_sub' started (Nat.div_mul_le_self _ period)
  · rw [after_cons, after_ticks]
    exact started
  · rw [after_cons, after_ticks]
    exact next
  · have ticked : (attended.clock - start) / period <
        ((attended.step (.move move)).clock - start) / period ↔ 0 < count := by
      rw [passed]
      exact Nat.lt_add_right_iff_pos
    rw [after_cons, after_ticks, Site.attend, Store.purgeTicks_snd]
    simp only [← ticked]
    rfl

/-- The same for one move after the other. -/
theorem OnTime.attend_all (onTime : OnTime start attended) (moves : List Move) : ∃ history,
    attended.Admits history ∧ OnTime start (attended.after history) ∧ movesOf history = moves ∧
      (attended.after history).toSite = moves.foldl (Site.attend start) attended.toSite := by
  induction moves generalizing attended with
  | nil => exact ⟨[], trivial, onTime, rfl, rfl⟩
  | cons move moves ih =>
    obtain ⟨count, admitted, later, site⟩ := onTime.attend move
    obtain ⟨history, following, latest, same, reached⟩ := ih later
    refine ⟨.move move :: List.replicate count .tick ++ history, ?_, ?_, ?_, ?_⟩
    · exact admits_append_iff.mpr ⟨admitted, following⟩
    · rwa [after_append]
    · simpa [movesOf] using same
    · rw [after_append, reached, site, List.foldl_cons]

end Attended

open Attended in
/-- A purge drops what is dead and nothing else. However a store is used while its task runs, the
task takes nothing away that is visible, and once it has caught up with the clock, what is held was
visible at the latest tick or has been written since. The task of a served store has always caught
up, and a request is a use. -/
theorem Store.purge_keeps_up :
    (∀ store now, PurgesExactly store now) ∧
    (∀ start store history, Harmless start store history ∧
      ((opened start store).Admits history → ((opened start store).after history).Settled →
        start + period ≤ ((opened start store).after history).clock →
          CaughtUp start store history)) ∧
    (∀ start store moves, ∃ history, (opened start store).Admits history ∧
      ((opened start store).after history).Settled ∧ movesOf history = moves ∧
      ((opened start store).after history).toSite =
        moves.foldl (Site.attend start) ⟨start, store⟩) ∧
    ∀ store now request, ∃ access : Access,
      (handle store now request).after = access.after now store := by
  refine ⟨purgesExactly, ?_, ?_, ?_⟩
  · intro start store history
    exact ⟨harmless start store history, caughtUp⟩
  · intro start store moves
    obtain ⟨history, admitted, onTime, same, reached⟩ :=
      (onTime_opened start store).attend_all moves
    exact ⟨history, admitted, onTime.settled, same, reached⟩
  · intro store now request
    exact (comes_handle store now request).exists_use

/-- Two ticks are passed at once. The first secret has been renewed in time, the second one is due
together with the first tick, and the third one is empty. -/
def Attended.leap : List Happening :=
  [.move (.use (.put (Dict.ofList [("first", ⟨[1]⟩), ("second", ⟨[2]⟩)]) (Span.ofSeconds 30))),
    .move (.use (.put (Dict.ofList [("third", ⟨[]⟩)]) (Span.ofSeconds 90))),
    .move (.wait (Span.ofSeconds 29)),
    .move (.use (.claim "first" ⟨[3]⟩ (Span.ofSeconds 60))),
    .move (.wait (Span.ofSeconds 40)), .tick, .tick]

open Attended in
theorem Store.purge_keeps_up_after_leap : (opened 0 empty).Admits leap ∧
    ((opened 0 empty).after leap).Settled ∧
    0 + period ≤ ((opened 0 empty).after leap).clock ∧ CaughtUp 0 empty leap := by
  have admitted : (opened 0 empty).Admits leap := by decide
  have settled : ((opened 0 empty).after leap).Settled := by decide
  have came : 0 + period ≤ ((opened 0 empty).after leap).clock := by decide
  exact ⟨admitted, settled, came, (purge_keeps_up.2.1 0 empty leap).2 admitted settled came⟩

example : ((Attended.opened 0 Store.empty).after Attended.leap).store.entries.toList =
    [("first", ⟨⟨[1]⟩, Span.ofSeconds 89⟩)] := by decide +kernel

end Signet
