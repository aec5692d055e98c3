import Signet.Proofs.Store.Sequence

/-! What a store answers, told from its past alone. The past of a store lists its uses, the latest
first; nothing in it says which entries a store still holds, or when it was purged of them. -/

namespace Signet

/-- A use of a store at some moment. -/
structure Use where
  moment : Instant
  access : Access

namespace Use

/-- It writes this entry under a key: as part of a dictionary, or by a claim that has not found a
visible secret there. -/
def Writes (use : Use) (key : String) (found : Prop) (entry : Entry) : Prop :=
  match use.access with
  | .put secrets ttl =>
    secrets.find? key = some entry.secret ∧ use.moment.after? ttl = some entry.deadline
  | .claim other fresh ttl =>
    other = key ∧ ¬ found ∧ entry.secret = fresh ∧ use.moment.after? ttl = some entry.deadline
  | .get _ | .delete _ | .purge => False

def Deletes (use : Use) (key : String) : Prop :=
  match use.access with
  | .delete keys => key ∈ keys
  | .get _ | .put .. | .claim .. | .purge => False

/-- The deadline of a visible entry after this use, which does not write. -/
def renew (use : Use) (key : String) (deadline : Instant) : Instant :=
  match use.access with
  | .claim other _ ttl =>
    if other = key then max deadline ((use.moment.after? ttl).getD 0) else deadline
  | .get _ | .put .. | .delete _ | .purge => deadline

/-- The deadline of a visible entry after some uses that do not write, the latest first. -/
def renewAll (later : List Use) (key : String) (deadline : Instant) : Instant :=
  later.foldr (fun use deadline => use.renew key deadline) deadline

end Use

/-- The entry that the past has left under a key, visible or not: the latest use that wrote under the
key wrote its secret, none since then has deleted the key, and its deadline is the one that was
written, put off by the claims since then. These have found the entry visible, as they would have
written otherwise. -/
def Stands (key : String) (past : List Use) (entry : Entry) : Prop :=
  ∃ later write earlier, ∃ _split : past = later ++ write :: earlier, ∃ deadline,
    write.Writes key (∃ seen, Stands key earlier seen ∧ seen.isLive write.moment = true)
      ⟨entry.secret, deadline⟩ ∧
    (∀ behind use between, ∀ _inside : later = behind ++ use :: between, ¬ use.Deletes key ∧
      ∀ other, ¬ use.Writes key (∃ seen, Stands key (between ++ write :: earlier) seen ∧
        seen.isLive use.moment = true) other) ∧
    entry.deadline = Use.renewAll later key deadline
termination_by past.length
decreasing_by
  all_goals subst_vars; simp; omega

/-- The past shows a secret under a key: one stands there, it is not empty, and its deadline lies
ahead. -/
def Shows (key : String) (past : List Use) (now : Instant) (secret : Secret) : Prop :=
  ∃ entry, Stands key past entry ∧ entry.isLive now = true ∧ entry.secret = secret

/-- Whether the past has left a visible entry under a key. -/
def Visible (key : String) (past : List Use) (now : Instant) : Prop :=
  ∃ entry, Stands key past entry ∧ entry.isLive now = true

variable {key : String} {past : List Use} {use : Use} {entry : Entry}

theorem Use.Writes.unique {found : Prop} {first second : Entry} (one : use.Writes key found first)
    (other : use.Writes key found second) : first = second := by
  obtain ⟨moment, access⟩ := use
  cases access with
  | put secrets ttl =>
    have secret : first.secret = second.secret := Option.some.inj (one.1.symm.trans other.1)
    have deadline : first.deadline = second.deadline := Option.some.inj (one.2.symm.trans other.2)
    exact Entry.ext secret deadline
  | claim name fresh ttl =>
    obtain ⟨-, -, secret, deadline⟩ := one
    obtain ⟨-, -, again, equal⟩ := other
    have moments := Option.some.inj (deadline.symm.trans equal)
    exact Entry.ext (secret.trans again.symm) moments
  | get keys => exact one.elim
  | delete keys => exact one.elim
  | purge => exact one.elim

theorem Use.Deletes.silent {found : Prop} (deletes : use.Deletes key) :
    ¬ use.Writes key found entry := by
  obtain ⟨moment, access⟩ := use
  cases access with
  | delete keys => exact id
  | get keys => exact deletes.elim
  | put secrets ttl => exact deletes.elim
  | claim name fresh ttl => exact deletes.elim
  | purge => exact deletes.elim

theorem not_stands_nil : ¬ Stands key [] entry := by
  rw [Stands]
  rintro ⟨later, write, earlier, split, -⟩
  simp at split

/-- One use more: either it has written, or it leaves what stood there, perhaps with another
deadline. -/
theorem stands_cons_iff : Stands key (use :: past) entry ↔
    use.Writes key (Visible key past use.moment) entry ∨
    (¬ use.Deletes key ∧ ∀ other, ¬ use.Writes key (Visible key past use.moment) other) ∧
      ∃ held, Stands key past held ∧ entry = ⟨held.secret, use.renew key held.deadline⟩ := by
  constructor
  · intro stands
    rw [Stands] at stands
    obtain ⟨later, write, earlier, split, deadline, wrote, untouched, renewed⟩ := stands
    cases later with
    | nil =>
      obtain ⟨rfl, rfl⟩ := List.cons.inj split
      obtain rfl : entry.deadline = deadline := renewed
      exact .inl wrote
    | cons first later =>
      obtain ⟨rfl, rfl⟩ := List.cons.inj split
      have standing : Stands key (later ++ write :: earlier)
          ⟨entry.secret, Use.renewAll later key deadline⟩ := by
        rw [Stands]
        refine ⟨later, write, earlier, rfl, deadline, wrote, ?_, rfl⟩
        intro behind other between inside
        exact untouched (use :: behind) other between (congrArg (use :: ·) inside)
      exact .inr ⟨untouched [] use later rfl, _, standing, congrArg (Entry.mk _) renewed⟩
  · rintro (wrote | ⟨untouched, held, stands, rfl⟩)
    · rw [Stands]
      refine ⟨[], use, past, rfl, entry.deadline, wrote, ?_, rfl⟩
      intro behind other between inside
      simp at inside
    · rw [Stands] at stands
      obtain ⟨later, write, earlier, rfl, deadline, wrote, spared, renewed⟩ := stands
      rw [Stands]
      refine ⟨use :: later, write, earlier, rfl, deadline, wrote, ?_, ?_⟩
      · intro behind other between inside
        cases behind with
        | nil =>
          obtain ⟨rfl, rfl⟩ := List.cons.inj inside
          exact untouched
        | cons first behind =>
          exact spared behind other between (List.cons.inj inside).2
      · exact congrArg (use.renew key) renewed

theorem stands_cons_of_writes {kept : Entry}
    (wrote : use.Writes key (Visible key past use.moment) kept) :
    Stands key (use :: past) entry ↔ entry = kept := by
  rw [stands_cons_iff]
  constructor
  · rintro (again | ⟨⟨-, silent⟩, -⟩)
    · exact again.unique wrote
    · exact absurd wrote (silent kept)
  · rintro rfl
    exact .inl wrote

theorem not_stands_cons_of_deletes (deletes : use.Deletes key) :
    ¬ Stands key (use :: past) entry := by
  rw [stands_cons_iff]
  rintro (wrote | ⟨⟨spared, -⟩, -⟩)
  · exact deletes.silent wrote
  · exact spared deletes

theorem stands_cons_of_silent (spared : ¬ use.Deletes key)
    (silent : ∀ other, ¬ use.Writes key (Visible key past use.moment) other) :
    Stands key (use :: past) entry ↔
      ∃ held, Stands key past held ∧ entry = ⟨held.secret, use.renew key held.deadline⟩ := by
  rw [stands_cons_iff]
  constructor
  · rintro (wrote | ⟨-, held⟩)
    · exact absurd wrote (silent entry)
    · exact held
  · exact fun held => .inr ⟨⟨spared, silent⟩, held⟩

/-- Use that neither deletes, nor writes, nor renews leaves what stands as it is. -/
theorem stands_cons_of_idle (spared : ¬ use.Deletes key)
    (silent : ∀ other, ¬ use.Writes key (Visible key past use.moment) other)
    (same : ∀ deadline, use.renew key deadline = deadline) :
    Stands key (use :: past) entry ↔ Stands key past entry := by
  rw [stands_cons_of_silent spared silent]
  simp [same]

/-- One entry at most stands under a key. -/
theorem Stands.unique {first second : Entry} (one : Stands key past first)
    (other : Stands key past second) : first = second := by
  induction past generalizing first second with
  | nil => exact absurd one not_stands_nil
  | cons use past ih =>
    rcases stands_cons_iff.mp one with wrote | ⟨⟨-, silent⟩, held, stood, rfl⟩
    · exact ((stands_cons_of_writes wrote).mp other).symm
    · rcases stands_cons_iff.mp other with wrote | ⟨-, again, standing, rfl⟩
      · exact absurd wrote (silent second)
      · rw [ih stood standing]

namespace Store

variable {store : Store} {now moment : Instant} {ttl : Span}

theorem deadline_of_after {renewed : Instant} (ranged : now.after? ttl = some renewed) :
    deadline now ttl = .ok renewed := by
  simp [deadline, ranged]

theorem deadline_of_out_of_range (ranged : now.after? ttl = none) :
    ∃ detail, deadline now ttl = .error (.protocol detail) := by
  simp [deadline, ranged]

theorem claim_of_out_of_range (store : Store) (key : String) (fresh : Secret)
    (ranged : now.after? ttl = none) :
    ∃ detail, store.claim now key fresh ttl = .error (.protocol detail) := by
  obtain ⟨detail, failed⟩ := deadline_of_out_of_range ranged
  exact ⟨detail, by simp [claim, failed, bind, Except.bind]⟩

theorem claim_of_visible {renewed : Instant} (fresh : Secret)
    (ranged : now.after? ttl = some renewed) (live : store.live? now key = some entry) :
    store.claim now key fresh ttl = .ok (entry.secret,
      ⟨store.entries.insert key ⟨entry.secret, max entry.deadline renewed⟩⟩) := by
  simp [claim, deadline_of_after ranged, live, bind, Except.bind, pure, Except.pure]

theorem claim_of_hidden {renewed : Instant} (fresh : Secret)
    (ranged : now.after? ttl = some renewed) (live : store.live? now key = none) :
    store.claim now key fresh ttl = .ok (fresh,
      ⟨store.entries.insert key ⟨fresh, renewed⟩⟩) := by
  simp [claim, deadline_of_after ranged, live, bind, Except.bind, pure, Except.pure]

theorem live?_purge (later : now ≤ moment) :
    (store.purge now).2.live? moment key = store.live? moment key := by
  rw [live?, find?_purge, live?, live?, Option.filter_filter]
  congr 1
  funext entry
  simp only [Entry.isLive, Bool.and_eq_right_iff_imp, Bool.and_eq_true, decide_eq_true_eq]
  exact fun live => ⟨Nat.lt_of_le_of_lt later live.1, live.2⟩

private theorem filter_some_eq_some_iff {kept : Entry} :
    (some kept).filter (·.isLive moment) = some entry ↔
      entry = kept ∧ entry.isLive moment = true := by
  rw [Option.filter_eq_some_iff, Option.some.injEq, @eq_comm _ kept]

/-- From now on the store shows the entries that its past has left visible. -/
def Recalls (store : Store) (now : Instant) (past : List Use) : Prop :=
  ∀ key moment, now ≤ moment → ∀ entry,
    store.live? moment key = some entry ↔ Stands key past entry ∧ entry.isLive moment = true

theorem recalls_empty (now : Instant) : empty.Recalls now [] := by
  intro key moment _ entry
  constructor
  · intro found
    cases found
  · exact fun stands => absurd stands.1 not_stands_nil

namespace Recalls

variable (recalls : store.Recalls now past)
include recalls

theorem wait (span : Span) : store.Recalls (now + span) past :=
  fun key moment later => recalls key moment (Nat.le_trans (Nat.le_add_right ..) later)

/-- Nothing is to be remembered of a purge. -/
theorem purge : (store.purge now).2.Recalls now past := by
  intro key moment later entry
  rw [live?_purge later]
  exact recalls key moment later entry

theorem live?_eq_some_iff : store.live? now key = some entry ↔
    Stands key past entry ∧ entry.isLive now = true :=
  recalls key now (Nat.le_refl now) entry

theorem live?_eq_none_iff : store.live? now key = none ↔ ¬ Visible key past now := by
  rw [Option.eq_none_iff_forall_ne_some]
  constructor
  · rintro hidden ⟨entry, visible⟩
    exact hidden entry (recalls.live?_eq_some_iff.mpr visible)
  · intro hidden entry live
    exact hidden ⟨entry, recalls.live?_eq_some_iff.mp live⟩

/-- A use that changes nothing, and leaves what stands as it is. -/
theorem idle {access : Access} (same : access.after now store = store)
    (idle : ∀ key entry, Stands key (⟨now, access⟩ :: past) entry ↔ Stands key past entry) :
    (access.after now store).Recalls now (⟨now, access⟩ :: past) := by
  intro key moment later entry
  rw [same, idle]
  exact recalls key moment later entry

theorem delete (keys : List String) :
    (store.delete keys).Recalls now (⟨now, .delete keys⟩ :: past) := by
  intro key moment later entry
  rw [live?, find?_delete]
  by_cases dropped : key ∈ keys
  · have gone : ¬ Stands key (⟨now, .delete keys⟩ :: past) entry :=
      not_stands_cons_of_deletes dropped
    simp [dropped, gone]
  · have spared : Stands key (⟨now, .delete keys⟩ :: past) entry ↔ Stands key past entry :=
      stands_cons_of_idle dropped (fun _ => id) fun _ => rfl
    rw [if_neg dropped, spared]
    exact recalls key moment later entry

theorem put (secrets : Dict Secret) (ttl : Span) :
    ((Access.put secrets ttl).after now store).Recalls now (⟨now, .put secrets ttl⟩ :: past) := by
  cases ranged : now.after? ttl with
  | none =>
    obtain ⟨detail, failed⟩ := deadline_of_out_of_range ranged
    refine recalls.idle (Access.after_put_of_error failed) fun key entry => ?_
    refine stands_cons_of_idle id (fun other wrote => ?_) fun _ => rfl
    cases ranged.symm.trans wrote.2
  | some renewed =>
    intro key moment later entry
    rw [Access.after_put_of_ok (deadline_of_after ranged), live?, find?_foldl_insert]
    cases written : secrets.find? key with
    | none =>
      have spared : Stands key (⟨now, .put secrets ttl⟩ :: past) entry ↔ Stands key past entry := by
        refine stands_cons_of_idle id (fun _ wrote => ?_) fun _ => rfl
        cases written.symm.trans wrote.1
      rw [spared]
      exact recalls key moment later entry
    | some secret =>
      have kept : Stands key (⟨now, .put secrets ttl⟩ :: past) entry ↔ entry = ⟨secret, renewed⟩ :=
        stands_cons_of_writes ⟨written, ranged⟩
      rw [kept]
      exact filter_some_eq_some_iff

theorem claim (name : String) (fresh : Secret) (ttl : Span) :
    ((Access.claim name fresh ttl).after now store).Recalls now
      (⟨now, .claim name fresh ttl⟩ :: past) := by
  cases ranged : now.after? ttl with
  | none =>
    obtain ⟨detail, failed⟩ := claim_of_out_of_range store name fresh ranged
    refine recalls.idle (Access.after_claim_of_error failed) fun key entry => ?_
    refine stands_cons_of_idle id (fun other wrote => ?_) fun deadline => ?_
    · cases ranged.symm.trans wrote.2.2.2
    · simp [Use.renew, ranged]
  | some renewed =>
    intro key moment later entry
    by_cases other : name = key
    · subst other
      cases live : store.live? now name with
      | none =>
        have hidden := recalls.live?_eq_none_iff.mp live
        have kept : Stands name (⟨now, .claim name fresh ttl⟩ :: past) entry ↔
            entry = ⟨fresh, renewed⟩ := stands_cons_of_writes ⟨rfl, hidden, rfl, ranged⟩
        rw [Access.after_claim_of_ok (claim_of_hidden fresh ranged live), live?,
          Dict.find?_insert_self, kept]
        exact filter_some_eq_some_iff
      | some seen =>
        obtain ⟨stands, visible⟩ := recalls.live?_eq_some_iff.mp live
        have kept : Stands name (⟨now, .claim name fresh ttl⟩ :: past) entry ↔
            entry = ⟨seen.secret, max seen.deadline renewed⟩ := by
          have silent : ∀ other, ¬ Use.Writes ⟨now, .claim name fresh ttl⟩ name
              (Visible name past now) other := fun _ wrote => wrote.2.1 ⟨seen, stands, visible⟩
          rw [stands_cons_of_silent id silent]
          constructor
          · rintro ⟨held, standing, rfl⟩
            rw [standing.unique stands]
            simp [Use.renew, ranged]
          · rintro rfl
            exact ⟨seen, stands, by simp [Use.renew, ranged]⟩
        rw [Access.after_claim_of_ok (claim_of_visible fresh ranged live), live?,
          Dict.find?_insert_self, kept]
        exact filter_some_eq_some_iff
    · have spared : Stands key (⟨now, .claim name fresh ttl⟩ :: past) entry ↔
          Stands key past entry :=
        stands_cons_of_idle id (fun _ wrote => other wrote.1) fun _ => if_neg other
      rw [spared, ← recalls key moment later entry, live?, live?]
      rcases Access.after_claim_cases now store name fresh ttl with same | ⟨kept, made, -⟩
      · rw [same]
      · rw [made, Dict.find?_insert_of_ne _ _ (Ne.symm other)]

/-- What stands after one use more is what the store then shows. -/
theorem after (access : Access) :
    (access.after now store).Recalls now (⟨now, access⟩ :: past) := by
  cases access with
  | get keys =>
    exact recalls.idle rfl fun _ _ => stands_cons_of_idle id (fun _ => id) fun _ => rfl
  | put secrets ttl => exact recalls.put secrets ttl
  | claim name fresh ttl => exact recalls.claim name fresh ttl
  | delete keys => exact recalls.delete keys
  | purge =>
    intro key moment later entry
    have spared : Stands key (⟨now, .purge⟩ :: past) entry ↔ Stands key past entry :=
      stands_cons_of_idle id (fun _ => id) fun _ => rfl
    rw [spared]
    exact recalls.purge key moment later entry

theorem find?_get (keys : List String) (key : String) (secret : Secret) :
    (store.get now keys).find? key = some secret ↔ key ∈ keys ∧ Shows key past now secret := by
  rw [find?_get_keys]
  by_cases asked : key ∈ keys
  · rw [if_pos asked, Option.map_eq_some_iff]
    simp only [asked, true_and, Shows, recalls.live?_eq_some_iff, and_assoc]
  · simp [asked]

end Recalls

/-- What a store answers at some moment, told by its past. -/
structure Answers (store : Store) (now : Instant) (past : List Use) : Prop where
  get (keys : List String) : ∃ found,
    ((Access.get keys).outcome store now).answer = .ok (.found found) ∧
      ∀ key secret, found.find? key = some secret ↔ key ∈ keys ∧ Shows key past now secret
  put (secrets : Dict Secret) (ttl : Span) : now.after? ttl ≠ none →
    ((Access.put secrets ttl).outcome store now).answer = .ok .done
  claim_of_shows (key : String) (fresh secret : Secret) (ttl : Span) : now.after? ttl ≠ none →
    Shows key past now secret →
      ((Access.claim key fresh ttl).outcome store now).answer = .ok (.secret secret)
  claim_of_hidden (key : String) (fresh : Secret) (ttl : Span) : now.after? ttl ≠ none →
    (∀ secret, ¬ Shows key past now secret) →
      ((Access.claim key fresh ttl).outcome store now).answer = .ok (.secret fresh)
  delete (keys : List String) : ((Access.delete keys).outcome store now).answer = .ok .done
  out_of_range (access : Access) (ttl : Span) : access.ttl? = some ttl → now.after? ttl = none →
    (∃ detail, (access.outcome store now).answer = .error (.protocol detail)) ∧
      (access.outcome store now).after = store

namespace Recalls

variable {first second : Store}

theorem answers (recalls : store.Recalls now past) : store.Answers now past where
  get keys := ⟨store.get now keys, rfl, recalls.find?_get keys⟩
  put secrets ttl ranged := by
    obtain ⟨renewed, ranged⟩ := Option.ne_none_iff_exists'.mp ranged
    simp [Access.outcome, SecretStore.put, Store.put, deadline_of_after ranged, Outcome.map,
      bind, Except.bind, pure, Except.pure, Except.map]
  claim_of_shows key fresh secret ttl ranged shows := by
    obtain ⟨renewed, ranged⟩ := Option.ne_none_iff_exists'.mp ranged
    obtain ⟨entry, stands, visible, rfl⟩ := shows
    have live := recalls.live?_eq_some_iff.mpr ⟨stands, visible⟩
    simp [Access.outcome, SecretStore.claim, Store.claim_of_visible fresh ranged live, Outcome.map,
      Except.map]
  claim_of_hidden key fresh ttl ranged hidden := by
    obtain ⟨renewed, ranged⟩ := Option.ne_none_iff_exists'.mp ranged
    have live : store.live? now key = none := by
      rw [recalls.live?_eq_none_iff]
      rintro ⟨entry, stands, visible⟩
      exact hidden entry.secret ⟨entry, stands, visible, rfl⟩
    simp [Access.outcome, SecretStore.claim, Store.claim_of_hidden fresh ranged live, Outcome.map,
      Except.map]
  delete keys := rfl
  out_of_range access ttl writes ranged := by
    cases access with
    | put secrets ttl =>
      obtain rfl := Option.some.inj writes
      obtain ⟨detail, failed⟩ := deadline_of_out_of_range ranged
      simp [Access.outcome, SecretStore.put, Store.put, failed, Outcome.map, bind, Except.bind,
        Except.map]
    | claim key fresh ttl =>
      obtain rfl := Option.some.inj writes
      obtain ⟨detail, failed⟩ := claim_of_out_of_range store key fresh ranged
      simp [Access.outcome, SecretStore.claim, failed, Outcome.map, Except.map]
    | get keys => cases writes
    | delete keys => cases writes
    | purge => cases writes

theorem live?_eq (one : first.Recalls now past) (other : second.Recalls now past) :
    first.live? now = second.live? now := by
  funext key
  apply Option.ext
  intro entry
  rw [one.live?_eq_some_iff, other.live?_eq_some_iff]

/-- Stores with one past answer alike, unless they are asked how many entries they drop. -/
theorem answer_eq (one : first.Recalls now past) (other : second.Recalls now past)
    {access : Access} (kept : access.isPurge = false) :
    (access.outcome first now).answer = (access.outcome second now).answer := by
  have shown := one.live?_eq other
  cases access with
  | get keys => simp [Access.outcome, SecretStore.get, Store.get, Outcome.map, shown]
  | put secrets ttl =>
    simp only [Access.outcome, SecretStore.put, Store.put, Outcome.map]
    cases deadline now ttl <;> rfl
  | claim key fresh ttl =>
    simp only [Access.outcome, SecretStore.claim, Store.claim, Outcome.map, shown]
    cases deadline now ttl with
    | error error => rfl
    | ok renewed => cases second.live? now key <;> rfl
  | delete keys => rfl
  | purge => cases kept

end Recalls
end Store

/-- The past of a store after some moves. -/
def pastAfter (now : Instant) (past : List Use) : List Move → List Use
  | [] => past
  | .use access :: moves => pastAfter now (⟨now, access⟩ :: past) moves
  | .wait span :: moves => pastAfter (now + span) past moves

namespace Store.Recalls

theorem after_moves (site : Site Store) {past : List Use}
    (recalls : site.store.Recalls site.clock past) (moves : List Move) :
    (site.after moves).store.Recalls (site.after moves).clock
      (pastAfter site.clock past moves) := by
  induction moves generalizing site past with
  | nil => exact recalls
  | cons move moves ih =>
    cases move with
    | use access =>
      refine ih (site.step (.use access)) ?_
      rw [Site.step, Access.after_outcome]
      exact recalls.after access
    | wait span => exact ih (site.step (.wait span)) (recalls.wait span)

/-- A store that is purged now and then answers like one that never is. -/
theorem answers_of_purged {first second : Store} {now : Instant} {past : List Use}
    (one : first.Recalls now past) (other : second.Recalls now past) (moves : List Move) :
    ((⟨now, first⟩ : Site Store).answers moves).filter (fun answered => !answered.1.isPurge) =
      (⟨now, second⟩ : Site Store).answers (moves.filter fun move => !move.isPurge) := by
  induction moves generalizing first second now past with
  | nil => rfl
  | cons move moves ih =>
    cases move with
    | wait span => exact ih (one.wait span) (other.wait span)
    | use access =>
      cases purges : access.isPurge with
      | true =>
        cases access with
        | purge =>
          rw [Site.answers, List.filter_cons_of_neg (by simp [purges]),
            List.filter_cons_of_neg (by simp [purges])]
          exact ih one.purge other
        | get keys => cases purges
        | put secrets ttl => cases purges
        | claim key fresh ttl => cases purges
        | delete keys => cases purges
      | false =>
        have later := ih (one.after access) (other.after access)
        simp only [← Access.after_outcome] at later
        simp [Site.answers, Site.step, purges, later, one.answer_eq other purges]

end Store.Recalls

/-- However a store is used that holds nothing at first, its past tells every answer; and purging
it, or not, changes none of the other answers. -/
theorem Store.answers_of_past (start : Instant) (moves : List Move) :
    (((⟨start, empty⟩ : Site Store).after moves).store.Answers
        ((⟨start, empty⟩ : Site Store).after moves).clock (pastAfter start [] moves)) ∧
      ∀ others : List Move,
        (moves.filter fun move => !move.isPurge) = (others.filter fun move => !move.isPurge) →
        ((⟨start, empty⟩ : Site Store).answers moves).filter
            (fun answered => !answered.1.isPurge) =
          ((⟨start, empty⟩ : Site Store).answers others).filter
            fun answered => !answered.1.isPurge := by
  have fresh := recalls_empty start
  refine ⟨(Recalls.after_moves ⟨start, empty⟩ fresh moves).answers, ?_⟩
  intro others same
  rw [fresh.answers_of_purged fresh, fresh.answers_of_purged fresh, same]

end Signet
