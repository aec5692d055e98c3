/-! Dictionaries from names to values. Each name stands once; a look-up after an insertion, an
erasure or a selection is given by one equation each. -/

namespace Signet

/-- Values by name, in the order in which the names came. -/
structure Dict (α : Type) where
  entries : List (String × α)
  distinct : (entries.map Prod.fst).Nodup
  deriving DecidableEq, Repr

namespace Dict

variable {α β : Type}

/-- The dictionary without names. -/
def empty : Dict α := ⟨[], List.Pairwise.nil⟩

instance : EmptyCollection (Dict α) := ⟨empty⟩

instance : Inhabited (Dict α) := ⟨empty⟩

/-- The value of a name. -/
def find? (dict : Dict α) (name : String) : Option α :=
  (dict.entries.find? fun entry => entry.1 == name).map Prod.snd

/-- Number of names. -/
def size (dict : Dict α) : Nat := dict.entries.length

/-- Names and values. -/
def toList (dict : Dict α) : List (String × α) := dict.entries

/-- The entries that satisfy the predicate. -/
def keep (dict : Dict α) (holds : String → α → Bool) : Dict α :=
  ⟨dict.entries.filter fun entry => holds entry.1 entry.2,
    dict.distinct.sublist (List.filter_sublist.map _)⟩

/-- Drops a name. -/
def erase (dict : Dict α) (name : String) : Dict α := dict.keep fun other _ => other != name

private theorem name_not_mem_erase (dict : Dict α) (name : String) :
    name ∉ (dict.erase name).entries.map Prod.fst := by
  simp [erase, keep]

/-- Gives a name a value, in place of the one that it had. -/
def insert (dict : Dict α) (name : String) (value : α) : Dict α :=
  ⟨(dict.erase name).entries ++ [(name, value)], by
    rw [List.map_append, List.nodup_append]
    refine ⟨(dict.erase name).distinct, by simp, ?_⟩
    intro first member second last same
    have last : second = name := by simpa using last
    exact name_not_mem_erase dict name ((same.trans last) ▸ member)⟩

/-- The dictionary of these names and values; a later value of a name wins. -/
def ofList (entries : List (String × α)) : Dict α :=
  entries.foldl (fun dict entry => dict.insert entry.1 entry.2) empty

/-- The same names with other values. -/
def mapValues (dict : Dict α) (image : α → β) : Dict β :=
  ⟨dict.entries.map fun entry => (entry.1, image entry.2), by
    have same : (dict.entries.map fun entry => (entry.1, image entry.2)).map Prod.fst =
        dict.entries.map Prod.fst := by simp
    rw [same]
    exact dict.distinct⟩

@[simp] theorem find?_empty (name : String) : (empty : Dict α).find? name = none := rfl

private theorem find?_filter {entries : List (String × α)}
    (distinct : (entries.map Prod.fst).Nodup) (holds : String → α → Bool) (name : String) :
    ((entries.filter fun entry => holds entry.1 entry.2).find? fun entry => entry.1 == name) =
      (entries.find? fun entry => entry.1 == name).filter fun entry => holds entry.1 entry.2 := by
  induction entries with
  | nil => rfl
  | cons entry rest ih =>
    rw [List.map_cons, List.nodup_cons] at distinct
    have ih := ih distinct.2
    rw [List.filter_cons]
    by_cases kept : holds entry.1 entry.2 = true
    · rw [if_pos kept]
      by_cases same : entry.1 = name
      · subst same
        simp [Option.filter, kept]
      · simp [same, ih]
    · rw [if_neg kept, ih]
      by_cases same : entry.1 = name
      · have absent : rest.find? (fun entry => entry.1 == name) = none := by
          rw [List.find?_eq_none]
          intro other member equal
          apply distinct.1
          rw [List.mem_map]
          exact ⟨other, member, by rw [same]; simpa using equal⟩
        rw [absent]
        subst same
        simp [Option.filter, kept]
      · simp [same]

theorem find?_keep (dict : Dict α) (holds : String → α → Bool) (name : String) :
    (dict.keep holds).find? name = (dict.find? name).filter (holds name) := by
  unfold find? keep
  rw [find?_filter dict.distinct]
  cases found : dict.entries.find? fun entry => entry.1 == name with
  | none => rfl
  | some entry =>
    have same : entry.1 = name := by simpa using List.find?_some found
    by_cases kept : holds entry.1 entry.2 = true <;> simp [Option.filter, ← same, kept]

@[simp] theorem find?_erase_self (dict : Dict α) (name : String) :
    (dict.erase name).find? name = none := by
  rw [erase, find?_keep]
  cases dict.find? name <;> simp [Option.filter]

theorem find?_erase_of_ne (dict : Dict α) {name other : String} (distinct : other ≠ name) :
    (dict.erase name).find? other = dict.find? other := by
  rw [erase, find?_keep]
  cases dict.find? other <;> simp [Option.filter, distinct]

private theorem find?_insert (dict : Dict α) (name other : String) (value : α) :
    (dict.insert name value).find? other =
      ((dict.erase name).find? other).or (if name = other then some value else none) := by
  unfold find? insert
  rw [List.find?_append]
  cases found : (dict.erase name).entries.find? fun entry => entry.1 == other with
  | some entry => rfl
  | none =>
    by_cases same : name = other <;> simp [same]

@[simp] theorem find?_insert_self (dict : Dict α) (name : String) (value : α) :
    (dict.insert name value).find? name = some value := by
  simp [find?_insert]

theorem find?_insert_of_ne (dict : Dict α) {name other : String} (value : α)
    (distinct : other ≠ name) : (dict.insert name value).find? other = dict.find? other := by
  simp [find?_insert, find?_erase_of_ne dict distinct, Ne.symm distinct]

theorem mem_entries_iff (dict : Dict α) (name : String) (value : α) :
    (name, value) ∈ dict.entries ↔ dict.find? name = some value := by
  constructor
  · intro member
    unfold find?
    obtain ⟨entries, distinct⟩ := dict
    induction entries with
    | nil => simp at member
    | cons entry rest ih =>
      rw [List.map_cons, List.nodup_cons] at distinct
      rcases List.mem_cons.1 member with rfl | later
      · simp
      · have other : entry.1 ≠ name := by
          intro same
          exact distinct.1 (List.mem_map.2 ⟨(name, value), later, same.symm⟩)
        simpa [List.find?_cons, other] using ih distinct.2 later
  · intro found
    unfold find? at found
    obtain ⟨entry, isFirst, rfl⟩ := Option.map_eq_some_iff.1 found
    have same : entry.1 = name := by simpa using List.find?_some isFirst
    have member := List.mem_of_find?_eq_some isFirst
    rw [← same]
    exact member

end Dict
end Signet
