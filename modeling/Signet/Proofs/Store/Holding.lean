import Signet.Proofs.Store.Recall
import Signet.Proofs.Store.Service

/-! What a store holds and what it shows. A purge drops what is dead and changes nothing that is
shown; what is held after a use was written by it, unless it was there before. -/

namespace Signet

/-- Whether an entry is no longer visible, or never was. -/
def Entry.isDead (entry : Entry) (now : Instant) : Bool :=
  entry.deadline ≤ now || entry.secret.isEmpty

theorem Entry.isDead_eq_not_isLive (entry : Entry) (now : Instant) :
    entry.isDead now = !entry.isLive now := by
  rw [isDead, isLive, Bool.not_and, Bool.not_not, ← decide_not]
  simp only [Nat.not_lt]

/-- The secret stays, and its deadline does not come nearer. -/
def Entry.Renewed (old entry : Entry) : Prop :=
  old.secret = entry.secret ∧ old.deadline ≤ entry.deadline

theorem Entry.Renewed.refl (entry : Entry) : entry.Renewed entry := ⟨rfl, Nat.le_refl _⟩

theorem Entry.Renewed.trans {first second third : Entry} (one : first.Renewed second)
    (other : second.Renewed third) : first.Renewed third :=
  ⟨one.1.trans other.1, Nat.le_trans one.2 other.2⟩

namespace Store

variable {store : Store} {now : Instant} {key : String} {entry : Entry}

/-- What it is for a purge of a store to be exact. -/
structure PurgesExactly (store : Store) (now : Instant) : Prop where
  count : (store.purge now).1 = store.entries.toList.countP fun item => item.2.isDead now
  kept (key : String) (entry : Entry) : (store.purge now).2.entries.find? key = some entry ↔
    store.entries.find? key = some entry ∧ entry.isDead now = false
  again : (store.purge now).2.purge now = (0, (store.purge now).2)

theorem find?_purge_eq_some_iff : (store.purge now).2.entries.find? key = some entry ↔
    store.entries.find? key = some entry ∧ entry.isDead now = false := by
  simp [find?_purge, live?, Option.filter_eq_some_iff, Entry.isDead_eq_not_isLive]

theorem purge_again (store : Store) (now : Instant) :
    (store.purge now).2.purge now = (0, (store.purge now).2) := by
  simp [purge, Dict.keep, size, Dict.size]

theorem count_purge (store : Store) (now : Instant) :
    (store.purge now).1 = store.entries.toList.countP fun item => item.2.isDead now := by
  -- Every entry is visible or dead, so that those which are dropped are the dead ones.
  have whole := List.length_eq_countP_add_countP (l := store.entries.entries)
    fun item => item.2.isLive now
  have kept : (store.purge now).2.size =
      store.entries.entries.countP fun item => item.2.isLive now := by
    simp [purge, Dict.keep, size, Dict.size, List.countP_eq_length_filter]
  have dead : (store.entries.entries.countP fun item => decide ¬ item.2.isLive now = true) =
      store.entries.toList.countP fun item => item.2.isDead now := by
    simp [Dict.toList, Entry.isDead_eq_not_isLive]
  have dropped : (store.purge now).1 = store.entries.entries.length - (store.purge now).2.size :=
    rfl
  omega

theorem purgesExactly (store : Store) (now : Instant) : store.PurgesExactly now :=
  ⟨count_purge store now, fun _ _ => find?_purge_eq_some_iff, purge_again store now⟩

/-- From now on the stores show one entry under every key. -/
def Resembles (store other : Store) (now : Instant) : Prop :=
  ∀ key moment, now ≤ moment → store.live? moment key = other.live? moment key

namespace Resembles

variable {other : Store} (alike : store.Resembles other now)
include alike

theorem later {moment : Instant} (later : now ≤ moment) : store.Resembles other moment :=
  fun key further after => alike key further (Nat.le_trans later after)

/-- One may be purged without the other. -/
theorem purge : (store.purge now).2.Resembles other now := by
  intro key moment later
  rw [live?_purge later]
  exact alike key moment later

theorem delete (keys : List String) : (store.delete keys).Resembles (other.delete keys) now := by
  intro key moment later
  rw [live?, live?, find?_delete, find?_delete]
  by_cases dropped : key ∈ keys
  · rw [if_pos dropped, if_pos dropped]
  · rw [if_neg dropped, if_neg dropped]
    exact alike key moment later

theorem insert (name : String) (entry : Entry) :
    (Store.mk (store.entries.insert name entry)).Resembles
      ⟨other.entries.insert name entry⟩ now := by
  intro key moment later
  rw [live?, live?]
  by_cases same : key = name
  · rw [same, Dict.find?_insert_self, Dict.find?_insert_self]
  · rw [Dict.find?_insert_of_ne _ _ same, Dict.find?_insert_of_ne _ _ same]
    exact alike key moment later

theorem put (secrets : Dict Secret) (ttl : Span) :
    ((Access.put secrets ttl).after now store).Resembles
      ((Access.put secrets ttl).after now other) now := by
  cases ranged : deadline now ttl with
  | error error =>
    rw [Access.after_put_of_error ranged, Access.after_put_of_error ranged]
    exact alike
  | ok moment =>
    rw [Access.after_put_of_ok ranged, Access.after_put_of_ok ranged]
    intro key further later
    rw [live?, live?, find?_foldl_insert, find?_foldl_insert]
    cases secrets.find? key with
    | some secret => rfl
    | none => exact alike key further later

theorem claim (name : String) (fresh : Secret) (ttl : Span) :
    ((Access.claim name fresh ttl).after now store).Resembles
      ((Access.claim name fresh ttl).after now other) now := by
  cases ranged : deadline now ttl with
  | error error =>
    rw [Access.after_claim_of_deadline_error ranged, Access.after_claim_of_deadline_error ranged]
    exact alike
  | ok moment =>
    rw [Access.after_claim ranged, Access.after_claim ranged, alike name now (Nat.le_refl now)]
    exact alike.insert name _

theorem after (access : Access) :
    (access.after now store).Resembles (access.after now other) now := by
  cases access with
  | get keys => exact alike
  | put secrets ttl => exact alike.put secrets ttl
  | claim name fresh ttl => exact alike.claim name fresh ttl
  | delete keys => exact alike.delete keys
  | purge =>
    intro key moment later
    rw [Access.after, Access.after, live?_purge later, live?_purge later]
    exact alike key moment later

end Resembles
end Store

/-- What is held after a use has been written by it, or was held before, or renews what was
visible. -/
theorem Access.held_after {access : Access} {now : Instant} {store : Store} {key : String}
    {entry : Entry} (held : (access.after now store).entries.find? key = some entry) :
    Use.Writes ⟨now, access⟩ key (∃ seen, store.live? now key = some seen) entry ∨
      store.entries.find? key = some entry ∨
      ∃ old, store.live? now key = some old ∧ old.Renewed entry := by
  cases access with
  | get keys => exact .inr (.inl held)
  | purge =>
    have kept := Store.find?_purge_eq_some_iff.mp held
    exact .inr (.inl kept.1)
  | delete keys =>
    have held : (store.delete keys).entries.find? key = some entry := held
    rw [Store.find?_delete] at held
    split at held
    case isTrue => cases held
    case isFalse => exact .inr (.inl held)
  | put secrets ttl =>
    cases ranged : now.after? ttl with
    | none =>
      obtain ⟨detail, failed⟩ := Store.deadline_of_out_of_range ranged
      rw [after_put_of_error failed] at held
      exact .inr (.inl held)
    | some renewed =>
      rw [after_put_of_ok (Store.deadline_of_after ranged), Store.find?_foldl_insert] at held
      cases written : secrets.find? key with
      | none => exact .inr (.inl (by simpa [written] using held))
      | some secret =>
        obtain rfl : ⟨secret, renewed⟩ = entry := by simpa [written] using held
        exact .inl ⟨written, ranged⟩
  | claim name fresh ttl =>
    cases ranged : now.after? ttl with
    | none =>
      obtain ⟨detail, failed⟩ := Store.deadline_of_out_of_range ranged
      rw [after_claim_of_deadline_error failed] at held
      exact .inr (.inl held)
    | some renewed =>
      rw [after_claim (Store.deadline_of_after ranged)] at held
      by_cases same : key = name
      · subst same
        rw [Dict.find?_insert_self, Option.some.injEq] at held
        subst held
        cases live : store.live? now key with
        | none => exact .inl ⟨rfl, by simp, rfl, ranged⟩
        | some old => exact .inr (.inr ⟨old, rfl, rfl, Nat.le_max_left ..⟩)
      · rw [Dict.find?_insert_of_ne _ _ same] at held
        exact .inr (.inl held)

/-- Whatever comes of a request, the request was a use of the store. -/
theorem Store.Comes.exists_use {store : Store} {now : Instant} {request : Http.Request}
    {served : Served} (comes : Comes store now request served) :
    ∃ access : Access, served.after = access.after now store := by
  cases comes with
  | refused | stuck | found => exact ⟨.get [], rfl⟩
  | @written ttl after body puts short done =>
    exact ⟨.put body.entries ttl, by simp [Access.after, SecretStore.put, done]⟩
  | claimed body claims short done =>
    exact ⟨.claim body.key body.secret _, (Access.after_claim_of_ok done).symm⟩
  | deleted body deletes => exact ⟨.delete body.keys, rfl⟩

end Signet
