import Signet.Proofs.Permission

/-! The name of a set, looked for backwards in a table. Which of several names is found hangs on the
order in which the entries stand; that it is a name of that very set, and leads back to it, does
not. -/

namespace Signet

namespace Dict

variable {α : Type} {first second : Dict α}

/-- The same entries, in whatever order they stand. -/
def Reorders (first second : Dict α) : Prop := first.entries.Perm second.entries

theorem Reorders.find? (reorders : first.Reorders second) (name : String) :
    first.find? name = second.find? name := by
  apply Option.ext
  intro value
  rw [← mem_entries_iff, ← mem_entries_iff]
  exact reorders.mem_iff

/-- Any entry may come first. -/
theorem exists_reorders_cons (dict : Dict α) {name : String} {value : α}
    (entry : dict.find? name = some value) :
    ∃ other : Dict α, other.Reorders dict ∧ ∃ rest, other.entries = (name, value) :: rest := by
  obtain ⟨front, back, split⟩ := List.append_of_mem ((dict.mem_entries_iff name value).mpr entry)
  have moved : ((name, value) :: (front ++ back)).Perm dict.entries := by
    rw [split]
    exact List.perm_middle.symm
  have distinct : (((name, value) :: (front ++ back)).map Prod.fst).Nodup :=
    (moved.map Prod.fst).nodup_iff.mpr dict.distinct
  exact ⟨⟨_, distinct⟩, moved, front ++ back, rfl⟩

end Dict

namespace Permission

/-- A number is told by its decimal digits, and a set by its number. -/
theorem text_injective {first second : Permission} (same : first.text = second.text) :
    first = second := by
  have digits : Nat.toDigits 10 first.toNat = Nat.toDigits 10 second.toNat := by
    rw [← Nat.toList_repr, ← Nat.toList_repr]
    exact congrArg String.toList same
  have numbers := congrArg (fun run => Nat.ofDigitChars 10 run 0) digits
  simp only [Nat.ofDigitChars_ten_toDigits] at numbers
  obtain ⟨bits⟩ := first
  obtain ⟨others⟩ := second
  exact congrArg Permission.mk (BitVec.eq_of_toNat_eq numbers)

namespace Table

variable {table other : Table} {permission first second : Permission} {name text : String}

/-- The same entries on either side, in whatever order they stand. -/
def Reorders (other table : Table) : Prop :=
  other.ordinary.Reorders table.ordinary ∧ other.privileged.Reorders table.privileged

theorem Reorders.refl (table : Table) : table.Reorders table :=
  ⟨List.Perm.refl _, List.Perm.refl _⟩

/-- What describes a set: one of its names on the ordinary side; if there is none, one of its names
on the privileged side; if it has no name at all, its decimal number. -/
inductive Describes (table : Table) (permission : Permission) : String → Prop where
  | ordinary {name : String} (entry : table.ordinary.find? name = some permission) :
      Describes table permission name
  | privileged {name : String} (bare : ∀ name, table.ordinary.find? name ≠ some permission)
      (entry : table.privileged.find? name = some permission) : Describes table permission name
  | unnamed (bare : ∀ name, table.ordinary.find? name ≠ some permission)
      (also : ∀ name, table.privileged.find? name ≠ some permission) :
      Describes table permission permission.text

/-- Some entry, on either side, has exactly the bits of this set. -/
def Names (table : Table) (permission : Permission) : Prop :=
  ∃ name, table.ordinary.find? name = some permission ∨
    table.privileged.find? name = some permission

/-- No name stands on both sides. -/
def Apart (table : Table) : Prop :=
  ∀ name, table.ordinary.find? name = none ∨ table.privileged.find? name = none

/-- No name is the decimal number of a set. -/
def Wordy (table : Table) : Prop :=
  ∀ name, table.Known true name → ∀ permission : Permission, name ≠ permission.text

theorem find?_value_eq_none_iff {side : Dict Permission} :
    side.toList.find? (fun entry => entry.2 = permission) = none ↔
      ∀ name, side.find? name ≠ some permission := by
  rw [List.find?_eq_none]
  constructor
  · intro strangers name entry
    have member := (side.mem_entries_iff name permission).mpr entry
    exact strangers _ member (decide_eq_true rfl)
  · intro bare entry member same
    obtain rfl : entry.2 = permission := of_decide_eq_true same
    exact bare entry.1 ((side.mem_entries_iff entry.1 entry.2).mp member)

theorem find?_of_find?_value {side : Dict Permission} {entry : String × Permission}
    (found : side.toList.find? (fun entry => entry.2 = permission) = some entry) :
    side.find? entry.1 = some permission := by
  have same := List.find?_some found
  obtain rfl : entry.2 = permission := of_decide_eq_true same
  exact (side.mem_entries_iff entry.1 entry.2).mp (List.mem_of_find?_eq_some found)

theorem describes (table : Table) (permission : Permission) :
    table.Describes permission (table.describe permission) := by
  rw [describe]
  split
  case h_1 entry found =>
    rw [List.find?_append, Option.or_eq_some_iff] at found
    rcases found with ordinary | ⟨bare, privileged⟩
    · exact .ordinary (find?_of_find?_value ordinary)
    · exact .privileged (find?_value_eq_none_iff.mp bare) (find?_of_find?_value privileged)
  case h_2 missing =>
    rw [List.find?_append, Option.or_eq_none_iff] at missing
    exact .unnamed (find?_value_eq_none_iff.mp missing.1) (find?_value_eq_none_iff.mp missing.2)

namespace Describes

/-- What describes a set in one order of the entries describes it in every other. -/
theorem reorder (describes : other.Describes permission text) (reorders : other.Reorders table) :
    table.Describes permission text := by
  have ordinary := reorders.1.find?
  have privileged := reorders.2.find?
  cases describes with
  | ordinary entry => exact .ordinary ((ordinary _).symm.trans entry)
  | privileged bare entry =>
    exact .privileged (fun name => ordinary name ▸ bare name) ((privileged _).symm.trans entry)
  | unnamed bare also =>
    exact .unnamed (fun name => ordinary name ▸ bare name) fun name => privileged name ▸ also name

/-- Whatever describes a set is found in some order of the entries. -/
theorem exists_order (describes : table.Describes permission text) :
    ∃ other : Table, other.Reorders table ∧ other.describe permission = text := by
  cases describes with
  | ordinary entry =>
    obtain ⟨side, reorders, rest, first⟩ := table.ordinary.exists_reorders_cons entry
    refine ⟨⟨side, table.privileged⟩, ⟨reorders, List.Perm.refl _⟩, ?_⟩
    simp [describe, Dict.toList, first]
  | privileged bare entry =>
    obtain ⟨side, reorders, rest, first⟩ := table.privileged.exists_reorders_cons entry
    refine ⟨⟨table.ordinary, side⟩, ⟨List.Perm.refl _, reorders⟩, ?_⟩
    rw [describe, List.find?_append, find?_value_eq_none_iff.mpr bare, Option.none_or]
    simp [Dict.toList, first]
  | unnamed bare also =>
    refine ⟨table, .refl table, ?_⟩
    rw [describe, List.find?_append, find?_value_eq_none_iff.mpr bare,
      find?_value_eq_none_iff.mpr also, Option.none_or]

/-- A set is described by its number only if it has no name. -/
theorem cases_named (describes : table.Describes permission text) :
    (table.ordinary.find? text = some permission ∨
      table.privileged.find? text = some permission) ∨
    ¬ table.Names permission ∧ text = permission.text := by
  cases describes with
  | ordinary entry => exact .inl (.inl entry)
  | privileged bare entry => exact .inl (.inr entry)
  | unnamed bare also =>
    refine .inr ⟨?_, rfl⟩
    rintro ⟨name, entry | entry⟩
    · exact bare name entry
    · exact also name entry

end Describes

/-- Where no name stands on both sides, each entry is what its name stands for. -/
theorem Apart.stands (apart : table.Apart)
    (entry : table.ordinary.find? name = some permission ∨
      table.privileged.find? name = some permission) : table.Stands true name permission := by
  rcases entry with ordinary | privileged
  · exact .ordinary ordinary
  · refine .privileged rfl ((apart name).resolve_right fun none => ?_) privileged
    cases none.symm.trans privileged

/-- A name alone comes to the set that it stands for. -/
theorem Stands.resolve {privileged : Bool} (stands : table.Stands privileged name permission) :
    table.resolve [name] privileged = .ok permission := by
  have known : ∀ other ∈ [name], table.Known privileged other :=
    List.forall_mem_singleton.mpr (known_iff.mpr ⟨permission, stands⟩)
  apply Resolves.eq
  refine .known known fun bit => ?_
  rw [bears_cons stands, or_iff_left (bears_nil bit)]

/-- A text describes one set at most, unless a name could be taken for a number. -/
theorem Apart.describes_unique (apart : table.Apart) (wordy : table.Wordy)
    (one : table.Describes first text) (two : table.Describes second text) : first = second := by
  have worded : ∀ permission, (table.ordinary.find? text = some permission ∨
      table.privileged.find? text = some permission) →
        ∀ number : Permission, text ≠ number.text :=
    fun permission entry => wordy text (known_iff.mpr ⟨permission, apart.stands entry⟩)
  rcases one.cases_named with entry | ⟨-, number⟩
  · rcases two.cases_named with other | ⟨-, number⟩
    · exact (apart.stands entry).unique (apart.stands other)
    · exact absurd number (worded first entry second)
  · rcases two.cases_named with other | ⟨-, numeral⟩
    · exact absurd number (worded second other first)
    · exact text_injective (number.symm.trans numeral)

theorem apart_of_entries (distinct : ∀ entry ∈ table.ordinary.entries,
    ∀ other ∈ table.privileged.entries, entry.1 ≠ other.1) : table.Apart := by
  intro name
  cases entry : table.ordinary.find? name with
  | none => exact .inl rfl
  | some permission =>
    refine .inr (Option.eq_none_iff_forall_ne_some.mpr fun second other => ?_)
    exact distinct _ ((Dict.mem_entries_iff ..).mpr entry) _
      ((Dict.mem_entries_iff ..).mpr other) rfl

theorem isDigit_of_mem_text {char : Char} (member : char ∈ permission.text.toList) :
    char.isDigit = true := by
  rw [text, Nat.toString_eq_repr, Nat.toList_repr] at member
  exact Nat.isDigit_of_mem_toDigits (by decide) (by decide) member

/-- A name that is not made of digits alone. -/
def Lettered (name : String) : Prop := name.toList.any (fun char => !char.isDigit) = true

instance (name : String) : Decidable (Lettered name) := inferInstanceAs (Decidable (_ = true))

theorem wordy_of_entries (ordinary : ∀ entry ∈ table.ordinary.entries, Lettered entry.1)
    (privileged : ∀ entry ∈ table.privileged.entries, Lettered entry.1) : table.Wordy := by
  have lettered : ∀ name, table.Known true name → Lettered name := by
    rintro name (⟨permission, entry⟩ | ⟨-, permission, entry⟩)
    · exact ordinary _ ((Dict.mem_entries_iff ..).mpr entry)
    · exact privileged _ ((Dict.mem_entries_iff ..).mpr entry)
  intro name known number same
  obtain ⟨char, inside, letter⟩ := List.any_eq_true.mp (lettered name known)
  rw [isDigit_of_mem_text (same ▸ inside)] at letter
  cases letter

/-- A set is described by a name of its own if it has one, an ordinary one before any other, and by
its number if it has none; every such name is found in some order of the entries. Where no name
stands on both sides, the name leads back to the set, in whatever order the entries stand, and where
names cannot be taken for numbers either, no two sets are described alike. -/
theorem describe_inverts (table : Table) :
    (∀ permission, table.Describes permission (table.describe permission)) ∧
    (∀ permission text, table.Describes permission text ↔
      ∃ other : Table, other.Reorders table ∧ other.describe permission = text) ∧
    (table.Apart →
      (∀ permission, table.Names permission → ∀ other : Table, other.Reorders table →
        table.resolve [other.describe permission] true = .ok permission) ∧
      (table.Wordy → ∀ one two : Table, one.Reorders table → two.Reorders table →
        ∀ first second, one.describe first = two.describe second → first = second)) := by
  have reordered : ∀ other : Table, other.Reorders table → ∀ permission,
      table.Describes permission (other.describe permission) :=
    fun other reorders permission => (other.describes permission).reorder reorders
  refine ⟨table.describes, fun permission text => ⟨Describes.exists_order, ?_⟩, fun apart =>
    ⟨?_, ?_⟩⟩
  · rintro ⟨other, reorders, rfl⟩
    exact reordered other reorders permission
  · intro permission named other reorders
    rcases (reordered other reorders permission).cases_named with entry | ⟨unnamed, -⟩
    · exact (apart.stands entry).resolve
    · exact absurd named unnamed
  · intro wordy one two forth back first second same
    have found := same ▸ reordered two back second
    exact apart.describes_unique wordy (reordered one forth first) found

/-- A table with two names for one set, and a name for a set of two capabilities. -/
def aliased : Table where
  ordinary := Dict.ofList [("view", ⟨1⟩), ("read", ⟨1⟩), ("edit", ⟨3⟩)]
  privileged := Dict.ofList [("grant", ⟨4⟩), ("look", ⟨1⟩)]

/-- The same entries the other way round. -/
def mirrored : Table where
  ordinary := Dict.ofList [("edit", ⟨3⟩), ("read", ⟨1⟩), ("view", ⟨1⟩)]
  privileged := Dict.ofList [("look", ⟨1⟩), ("grant", ⟨4⟩)]

/-- Two orders find two names, and both lead back to the one set. The built-in names are all told
apart. -/
theorem describe_inverts_aliased :
    aliased.describe ⟨1⟩ = "view" ∧ mirrored.describe ⟨1⟩ = "read" ∧
      aliased.Describes ⟨1⟩ "read" ∧
      aliased.resolve [mirrored.describe ⟨1⟩] true = .ok ⟨1⟩ ∧
      aliased.resolve [aliased.describe ⟨3⟩] true = .ok ⟨3⟩ ∧
      ∀ first second, standard.describe first = standard.describe second → first = second := by
  obtain ⟨-, orders, inverts⟩ := describe_inverts aliased
  have mirror : mirrored.Reorders aliased := by
    constructor
    · show List.Perm _ _
      decide
    · show List.Perm _ _
      decide
  obtain ⟨back, -⟩ := inverts (apart_of_entries (by decide))
  have apart : standard.Apart := apart_of_entries (by decide)
  have wordy : standard.Wordy := wordy_of_entries (by decide +kernel) (by decide +kernel)
  obtain ⟨-, alike⟩ := (describe_inverts standard).2.2 apart
  refine ⟨rfl, rfl, (orders _ _).mpr ⟨mirrored, mirror, rfl⟩, ?_, ?_, ?_⟩
  · exact back ⟨1⟩ ⟨"read", .inl rfl⟩ mirrored mirror
  · exact back ⟨3⟩ ⟨"edit", .inl rfl⟩ aliased (.refl aliased)
  · exact alike wordy standard standard (.refl standard) (.refl standard)

end Table
end Permission
end Signet
