import Signet.Store.Access

/-! What the uses of a store do to the entry under one key. Only a deletion and a write touch a
visible entry under their keys; a claim of its key renews it. -/

namespace Signet

namespace Dict

variable {α : Type}

/-- A name stands for one entry at most. -/
theorem size_le_size_erase (dict : Dict α) (name : String) :
    dict.size ≤ (dict.erase name).size + 1 := by
  have once : dict.entries.countP (fun entry => entry.1 == name) ≤ 1 := by
    have count := List.nodup_iff_count.mp dict.distinct name
    rwa [List.count, List.countP_map] at count
  have whole : dict.size = dict.entries.countP (fun entry => entry.1 == name) +
      dict.entries.countP fun entry => decide ¬ (entry.1 == name) = true :=
    List.length_eq_countP_add_countP _
  have others : (dict.erase name).size =
      dict.entries.countP fun entry => decide ¬ (entry.1 == name) = true := by
    rw [List.countP_eq_length_filter]
    simp [erase, keep, size, bne, Bool.beq_eq_decide_eq]
  omega

theorem size_erase_le (dict : Dict α) (name : String) : (dict.erase name).size ≤ dict.size :=
  List.length_filter_le ..

theorem size_erase_insert (dict : Dict α) (name : String) (value : α) :
    ((dict.insert name value).erase name).size = (dict.erase name).size := by
  simp [insert, erase, keep, size]

theorem size_erase_keep_le (dict : Dict α) (name : String) (holds : String → α → Bool) :
    ((dict.keep holds).erase name).size ≤ (dict.erase name).size := by
  simp only [erase, keep, size]
  exact (List.filter_sublist.filter _).length_le

end Dict

namespace Store

variable {store : Store} {now : Instant} {key other : String} {fresh : Secret} {ttl : Span}
  {entry : Entry}

theorem live?_eq_some_iff : store.live? now key = some entry ↔
    store.entries.find? key = some entry ∧ now < entry.deadline ∧ entry.secret.isEmpty = false := by
  rw [live?, Option.filter_eq_some_iff, Entry.isLive]
  simp

private theorem find?_foldl_get (store : Store) (now : Instant) (keys : List String)
    (found : Dict Secret) (key : String) : ((keys.filterMap fun key =>
      (store.live? now key).map fun entry => (key, entry.secret)).foldl
        (fun dict entry => dict.insert entry.1 entry.2) found).find? key =
      (if key ∈ keys then (store.live? now key).map Entry.secret else none).or
        (found.find? key) := by
  induction keys generalizing found with
  | nil => rfl
  | cons first keys ih =>
    rw [List.filterMap_cons]
    cases live : store.live? now first with
    | none =>
      rw [Option.map_none, ih]
      by_cases same : key = first
      · simp [same, live]
      · simp [same]
    | some entry =>
      rw [Option.map_some, List.foldl_cons, ih]
      by_cases same : key = first
      · subst same
        by_cases again : key ∈ keys <;> simp [live, again]
      · simp [same, Dict.find?_insert_of_ne found _ same]

/-- The visible secrets under the keys that were asked for, and no others. -/
theorem find?_get_keys (store : Store) (now : Instant) (keys : List String) (key : String) :
    (store.get now keys).find? key =
      if key ∈ keys then (store.live? now key).map Entry.secret else none := by
  rw [get, Dict.ofList, find?_foldl_get, Dict.find?_empty, Option.or_none]

theorem find?_get (store : Store) (now : Instant) (key : String) :
    (store.get now [key]).find? key = (store.live? now key).map Entry.secret := by
  simp [find?_get_keys]

/-- What a claim comes to: it is out of range, or it renews the visible entry, or it writes. -/
theorem claim_cases (store : Store) (now : Instant) (key : String) (fresh : Secret) (ttl : Span) :
    (∃ error, deadline now ttl = .error error ∧ store.claim now key fresh ttl = .error error) ∨
    ∃ renewed, deadline now ttl = .ok renewed ∧
      ((∃ entry, store.live? now key = some entry ∧ store.claim now key fresh ttl =
        .ok (entry.secret,
          ⟨store.entries.insert key ⟨entry.secret, max entry.deadline renewed⟩⟩)) ∨
      (store.live? now key = none ∧ store.claim now key fresh ttl =
        .ok (fresh, ⟨store.entries.insert key ⟨fresh, renewed⟩⟩))) := by
  cases ranged : deadline now ttl with
  | error error => exact .inl ⟨error, rfl, by simp [claim, ranged, bind, Except.bind]⟩
  | ok renewed =>
    refine .inr ⟨renewed, rfl, ?_⟩
    cases live : store.live? now key with
    | none => exact .inr ⟨rfl, by simp [claim, ranged, live, bind, Except.bind, pure, Except.pure]⟩
    | some entry =>
      exact .inl ⟨entry, rfl, by
        simp [claim, ranged, live, bind, Except.bind, pure, Except.pure]⟩

theorem deadline_eq_ok_iff {moment : Instant} : deadline now ttl = .ok moment ↔
    (now + ttl) / Span.second < instantBound ∧ moment = now + ttl := by
  unfold deadline Instant.after?
  by_cases ranged : (now + ttl) / Span.second < instantBound
  · simp [ranged, eq_comm]
  · simp [ranged]

theorem find?_delete (store : Store) (keys : List String) (key : String) :
    (store.delete keys).entries.find? key =
      if key ∈ keys then none else store.entries.find? key := by
  simp only [delete]
  generalize store.entries = entries
  induction keys generalizing entries with
  | nil => simp
  | cons first keys ih =>
    rw [List.foldl_cons, ih]
    by_cases same : key = first
    · subst same
      simp
    · simp [same, Dict.find?_erase_of_ne entries same]

theorem find?_purge (store : Store) (now : Instant) (key : String) :
    (store.purge now).2.entries.find? key = store.live? now key :=
  Dict.find?_keep store.entries (fun _ entry => entry.isLive now) key

theorem size_erase_delete_le (store : Store) (keys : List String) (key : String) :
    ((store.delete keys).entries.erase key).size ≤ (store.entries.erase key).size := by
  simp only [delete]
  generalize store.entries = entries
  induction keys generalizing entries with
  | nil => exact Nat.le_refl _
  | cons first keys ih => exact Nat.le_trans (ih _) (Dict.size_erase_keep_le ..)

/-- What is found after some writes: the last words of all, or else what was there before. -/
theorem find?_foldl_insert (secrets : Dict Secret) (moment : Instant) (entries : Dict Entry)
    (key : String) : (secrets.toList.foldl (fun entries item =>
      entries.insert item.1 ⟨item.2, moment⟩) entries).find? key =
        ((secrets.find? key).map fun secret => ⟨secret, moment⟩).or (entries.find? key) := by
  obtain ⟨items, distinct⟩ := secrets
  simp only [Dict.toList, Dict.find?]
  induction items generalizing entries with
  | nil => rfl
  | cons item items ih =>
    rw [List.map_cons, List.nodup_cons] at distinct
    have ih := ih (entries.insert item.1 ⟨item.2, moment⟩) distinct.2
    rw [List.foldl_cons]
    by_cases same : item.1 = key
    · have absent : items.find? (fun other => other.1 == key) = none := by
        rw [List.find?_eq_none]
        intro other member equal
        have named : other.1 = item.1 := by simpa [same] using equal
        exact distinct.1 (List.mem_map.mpr ⟨other, member, named⟩)
      have written := Dict.find?_insert_self entries key ⟨item.2, moment⟩
      subst same
      simp_all [Dict.find?]
    · have kept := Dict.find?_insert_of_ne entries ⟨item.2, moment⟩ (Ne.symm same)
      simp_all [Dict.find?]

end Store

/-- The key that a call is about. -/
def StoreCall.key : StoreCall → String
  | get key | claim key .. | delete key => key

/-- A use of a store. -/
inductive Access where
  | get (keys : List String)
  | put (secrets : Dict Secret) (ttl : Span)
  | claim (key : String) (fresh : Secret) (ttl : Span)
  | delete (keys : List String)
  | purge

namespace Access

/-- The store after it has been used. -/
def after (now : Instant) (store : Store) : Access → Store
  | get keys => (SecretStore.get store now keys).after
  | put secrets ttl => (SecretStore.put store now secrets ttl).after
  | claim key fresh ttl => (SecretStore.claim store now key fresh ttl).after
  | delete keys => (SecretStore.delete store now keys).after
  | purge => (store.purge now).2

/-- A store call of an operation as a use of the store. -/
def ofCall : StoreCall → Access
  | .get key => get [key]
  | .claim key fresh ttl => claim key fresh ttl
  | .delete key => delete [key]

theorem after_ofCall (now : Instant) (store : Store) (call : StoreCall) :
    (ofCall call).after now store = (SecretStore.answer store now call).after := by
  cases call <;> rfl

/-- It neither writes under a key whatever is there nor drops it. -/
def Spares (key : String) : Access → Prop
  | put secrets _ => secrets.find? key = none
  | delete keys => key ∉ keys
  | get _ | claim .. | purge => True

/-- It may leave this secret under a key. -/
def Offers (key : String) (secret : Secret) : Access → Prop
  | put secrets _ => secrets.find? key = some secret
  | claim other fresh _ => other = key ∧ fresh = secret
  | get _ | delete _ | purge => False

/-- It writes a secret, whatever becomes of it. -/
def Writes : Access → Prop
  | put .. | claim .. => True
  | get _ | delete _ | purge => False

theorem Offers.writes {access : Access} {key : String} {secret : Secret}
    (offers : access.Offers key secret) : access.Writes := by
  cases access with
  | put secrets ttl => trivial
  | claim other fresh ttl => trivial
  | get keys => exact offers.elim
  | delete keys => exact offers.elim
  | purge => exact offers.elim

/-- It writes nothing but a claim of this key, and does not drop it. -/
def Confined (key : String) : Access → Prop
  | claim other _ _ => other = key
  | delete keys => key ∉ keys
  | get _ | purge => True
  | put .. => False

theorem Confined.spares {access : Access} {key : String} (confined : access.Confined key) :
    access.Spares key := by
  cases access with
  | put secrets ttl => exact confined.elim
  | delete keys => exact confined
  | get keys => trivial
  | claim key fresh ttl => trivial
  | purge => trivial

theorem Spares.confined {access : Access} {key : String} (spares : access.Spares key)
    (silent : ¬ access.Writes) : access.Confined key := by
  cases access with
  | put secrets ttl => exact absurd trivial silent
  | delete keys => exact spares
  | get keys => trivial
  | claim key fresh ttl => exact absurd trivial silent
  | purge => trivial

variable {access : Access} {store : Store} {now : Instant} {key : String} {entry : Entry}

theorem after_claim_of_error {fresh : Secret} {ttl : Span} {error : StoreError}
    (failed : store.claim now key fresh ttl = .error error) :
    (claim key fresh ttl).after now store = store := by
  simp [after, SecretStore.claim, failed]

theorem after_claim_of_ok {fresh found : Secret} {ttl : Span} {later : Store}
    (claimed : store.claim now key fresh ttl = .ok (found, later)) :
    (claim key fresh ttl).after now store = later := by
  simp [after, SecretStore.claim, claimed]

theorem after_claim_of_deadline_error {fresh : Secret} {ttl : Span} {error : StoreError}
    (ranged : Store.deadline now ttl = .error error) :
    (claim key fresh ttl).after now store = store := by
  have failed : store.claim now key fresh ttl = .error error := by
    simp [Store.claim, ranged, bind, Except.bind]
  exact after_claim_of_error failed

/-- The entry that a claim leaves under its key. -/
def claimed (live? : Option Entry) (fresh : Secret) (moment : Instant) : Entry :=
  match live? with
  | some entry => ⟨entry.secret, max entry.deadline moment⟩
  | none => ⟨fresh, moment⟩

theorem after_claim {fresh : Secret} {ttl : Span} {moment : Instant}
    (ranged : Store.deadline now ttl = .ok moment) : (claim key fresh ttl).after now store =
      ⟨store.entries.insert key (claimed (store.live? now key) fresh moment)⟩ := by
  rcases store.claim_cases now key fresh ttl with ⟨error, failed, -⟩ |
    ⟨renewed, same, ⟨entry, live, made⟩ | ⟨none, made⟩⟩
  · rw [ranged] at failed
    cases failed
  · obtain rfl : moment = renewed := Except.ok.inj (ranged.symm.trans same)
    rw [after_claim_of_ok made, live, claimed]
  · obtain rfl : moment = renewed := Except.ok.inj (ranged.symm.trans same)
    rw [after_claim_of_ok made, none, claimed]

/-- A claim leaves the store as it was, or an entry under its key that renews the visible one or
else holds the secret that it offers. -/
theorem after_claim_cases (now : Instant) (store : Store) (key : String) (fresh : Secret)
    (ttl : Span) : (claim key fresh ttl).after now store = store ∨
      ∃ kept, (claim key fresh ttl).after now store = ⟨store.entries.insert key kept⟩ ∧
        ((∃ entry, store.live? now key = some entry ∧ kept.secret = entry.secret ∧
          entry.deadline ≤ kept.deadline) ∨
        store.live? now key = none ∧ kept.secret = fresh) := by
  cases ranged : Store.deadline now ttl with
  | error error => exact .inl (after_claim_of_deadline_error ranged)
  | ok moment =>
    refine .inr ⟨_, after_claim ranged, ?_⟩
    cases live : store.live? now key with
    | none => exact .inr ⟨rfl, rfl⟩
    | some entry => exact .inl ⟨entry, rfl, rfl, Nat.le_max_left ..⟩

theorem after_put_of_error {secrets : Dict Secret} {ttl : Span} {error : StoreError}
    (ranged : Store.deadline now ttl = .error error) :
    (put secrets ttl).after now store = store := by
  simp [after, SecretStore.put, Store.put, ranged, bind, Except.bind]

theorem after_put_of_ok {secrets : Dict Secret} {ttl : Span} {moment : Instant}
    (ranged : Store.deadline now ttl = .ok moment) : (put secrets ttl).after now store =
      ⟨secrets.toList.foldl (fun entries item => entries.insert item.1 ⟨item.2, moment⟩)
        store.entries⟩ := by
  simp [after, SecretStore.put, Store.put, ranged, bind, Except.bind, pure, Except.pure]

/-- What a use leaves under a key depends on what was there and on nothing else. -/
theorem find?_after_congr {other : Store}
    (same : store.entries.find? key = other.entries.find? key) :
    (access.after now store).entries.find? key = (access.after now other).entries.find? key := by
  cases access with
  | get keys => exact same
  | put secrets ttl =>
    cases ranged : Store.deadline now ttl with
    | error error => rw [after_put_of_error ranged, after_put_of_error ranged, same]
    | ok moment =>
      rw [after_put_of_ok ranged, after_put_of_ok ranged, Store.find?_foldl_insert,
        Store.find?_foldl_insert, same]
  | claim name fresh ttl =>
    cases ranged : Store.deadline now ttl with
    | error error =>
      rw [after_claim_of_deadline_error ranged, after_claim_of_deadline_error ranged, same]
    | ok moment =>
      rw [after_claim ranged, after_claim ranged]
      by_cases named : key = name
      · subst named
        rw [Dict.find?_insert_self, Dict.find?_insert_self, Store.live?, Store.live?, same]
      · rw [Dict.find?_insert_of_ne _ _ named, Dict.find?_insert_of_ne _ _ named, same]
  | delete keys =>
    show (store.delete keys).entries.find? key = (other.delete keys).entries.find? key
    rw [Store.find?_delete, Store.find?_delete, same]
  | purge =>
    show (store.purge now).2.entries.find? key = (other.purge now).2.entries.find? key
    rw [Store.find?_purge, Store.find?_purge, Store.live?, Store.live?, same]

/-- A call changes nothing but what is under its key. -/
theorem find?_after_ofCall_of_ne (call : StoreCall) (different : key ≠ call.key) :
    ((ofCall call).after now store).entries.find? key = store.entries.find? key := by
  cases call with
  | get name => rfl
  | claim name fresh ttl =>
    rcases after_claim_cases now store name fresh ttl with same | ⟨kept, made, -⟩
    · exact congrArg (fun store => store.entries.find? key) same
    · exact (congrArg (fun store => store.entries.find? key) made).trans
        (Dict.find?_insert_of_ne _ _ different)
  | delete name =>
    show (store.delete [name]).entries.find? key = _
    have others : key ∉ [name] := fun member => different (List.mem_singleton.mp member)
    rw [Store.find?_delete, if_neg others]

/-- What is under a key after a claim was there before, or renews what was visible, or is what the
claim has written, finding nothing visible. -/
theorem find?_claim_cases {other : String} {fresh : Secret} {ttl : Span}
    (found : ((claim other fresh ttl).after now store).entries.find? key = some entry) :
    store.entries.find? key = some entry ∨
      (∃ old, store.live? now key = some old ∧ old.secret = entry.secret) ∨
      other = key ∧ fresh = entry.secret ∧ store.live? now key = none := by
  rcases after_claim_cases now store other fresh ttl with same | ⟨kept, made, renewed⟩
  · rw [same] at found
    exact .inl found
  rw [made] at found
  by_cases same : key = other
  · subst same
    rw [Dict.find?_insert_self] at found
    cases found
    rcases renewed with ⟨live, seen, equal, -⟩ | ⟨absent, offered⟩
    · exact .inr (.inl ⟨live, seen, equal.symm⟩)
    · exact .inr (.inr ⟨rfl, offered.symm, absent⟩)
  · rw [Dict.find?_insert_of_ne _ _ same] at found
    exact .inl found

/-- What is under a key after a use was there before, or renews what was visible, or is offered. -/
theorem find?_after_cases (found : (access.after now store).entries.find? key = some entry) :
    store.entries.find? key = some entry ∨
      (∃ old, store.live? now key = some old ∧ old.secret = entry.secret) ∨
      access.Offers key entry.secret := by
  cases access with
  | get keys => exact .inl found
  | put secrets ttl =>
    cases ranged : Store.deadline now ttl with
    | error error =>
      rw [after_put_of_error ranged] at found
      exact .inl found
    | ok moment =>
      rw [after_put_of_ok ranged, Store.find?_foldl_insert] at found
      cases written : secrets.find? key with
      | none => exact .inl (by simpa [written] using found)
      | some secret =>
        obtain rfl : ⟨secret, moment⟩ = entry := by simpa [written] using found
        exact .inr (.inr written)
  | claim other fresh ttl =>
    rcases find?_claim_cases found with before | renewed | ⟨same, offered, -⟩
    · exact .inl before
    · exact .inr (.inl renewed)
    · exact .inr (.inr ⟨same, offered⟩)
  | delete keys =>
    have found : (store.delete keys).entries.find? key = some entry := found
    rw [Store.find?_delete] at found
    split at found
    · cases found
    · exact .inl found
  | purge =>
    have found : (store.purge now).2.entries.find? key = some entry := found
    rw [Store.find?_purge, Store.live?_eq_some_iff] at found
    exact .inl found.1

/-- A secret under a key was there before a claim, or the claim has written it, finding none that was
visible. -/
theorem origin_of_claim {other : String} {fresh : Secret} {ttl : Span}
    (found : ((claim other fresh ttl).after now store).entries.find? key = some entry) :
    (∃ old, store.entries.find? key = some old ∧ old.secret = entry.secret) ∨
      other = key ∧ fresh = entry.secret ∧ store.live? now key = none := by
  rcases find?_claim_cases found with before | ⟨old, live, same⟩ | offered
  · exact .inl ⟨entry, before, rfl⟩
  · exact .inl ⟨old, (Store.live?_eq_some_iff.mp live).1, same⟩
  · exact .inr offered

/-- A secret under a key was there before or has been offered. -/
theorem origin (found : (access.after now store).entries.find? key = some entry) :
    (∃ old, store.entries.find? key = some old ∧ old.secret = entry.secret) ∨
      access.Offers key entry.secret := by
  rcases find?_after_cases found with before | ⟨old, live, same⟩ | offered
  · exact .inl ⟨entry, before, rfl⟩
  · exact .inl ⟨old, (Store.live?_eq_some_iff.mp live).1, same⟩
  · exact .inr offered

/-- A visible secret was visible before or has been offered. -/
theorem live_origin (live : (access.after now store).live? now key = some entry) :
    (∃ old, store.live? now key = some old ∧ old.secret = entry.secret) ∨
      access.Offers key entry.secret := by
  obtain ⟨found, early, full⟩ := Store.live?_eq_some_iff.mp live
  rcases find?_after_cases found with before | renewed | offered
  · exact .inl ⟨entry, Store.live?_eq_some_iff.mpr ⟨before, early, full⟩, rfl⟩
  · exact .inl renewed
  · exact .inr offered

/-- A visible entry outlives every use that spares its key, and its deadline comes no nearer. -/
theorem keeps (spares : access.Spares key) (live : store.live? now key = some entry) :
    ∃ kept, (access.after now store).entries.find? key = some kept ∧
      kept.secret = entry.secret ∧ entry.deadline ≤ kept.deadline := by
  obtain ⟨found, early, full⟩ := Store.live?_eq_some_iff.mp live
  cases access with
  | get keys => exact ⟨entry, found, rfl, Nat.le_refl _⟩
  | put secrets ttl =>
    cases ranged : Store.deadline now ttl with
    | error error =>
      rw [after_put_of_error ranged]
      exact ⟨entry, found, rfl, Nat.le_refl _⟩
    | ok moment =>
      have silent : secrets.find? key = none := spares
      rw [after_put_of_ok ranged, Store.find?_foldl_insert, silent]
      exact ⟨entry, found, rfl, Nat.le_refl _⟩
  | claim other fresh ttl =>
    rcases after_claim_cases now store other fresh ttl with same | ⟨kept, made, renewed⟩
    · rw [same]
      exact ⟨entry, found, rfl, Nat.le_refl _⟩
    rw [made]
    by_cases same : key = other
    · subst same
      rcases renewed with ⟨seen, visible, equal, longer⟩ | ⟨none, -⟩
      · obtain rfl : entry = seen := Option.some.inj (live.symm.trans visible)
        exact ⟨kept, Dict.find?_insert_self .., equal, longer⟩
      · rw [live] at none
        cases none
    · exact ⟨entry, (Dict.find?_insert_of_ne _ _ same).trans found, rfl, Nat.le_refl _⟩
  | delete keys =>
    refine ⟨entry, ?_, rfl, Nat.le_refl _⟩
    show (store.delete keys).entries.find? key = some entry
    rw [Store.find?_delete, if_neg spares, found]
  | purge =>
    refine ⟨entry, ?_, rfl, Nat.le_refl _⟩
    show (store.purge now).2.entries.find? key = some entry
    rw [Store.find?_purge, live]

theorem Confined.size_erase_le (confined : access.Confined key) :
    ((access.after now store).entries.erase key).size ≤ (store.entries.erase key).size := by
  cases access with
  | get keys => exact Nat.le_refl _
  | put secrets ttl => exact confined.elim
  | claim other fresh ttl =>
    obtain rfl : other = key := confined
    rcases after_claim_cases now store other fresh ttl with same | ⟨kept, made, -⟩
    · exact Nat.le_of_eq (by rw [same])
    · rw [made]
      exact Nat.le_of_eq (Dict.size_erase_insert ..)
  | delete keys => exact Store.size_erase_delete_le ..
  | purge => exact Dict.size_erase_keep_le ..

end Access
end Signet
