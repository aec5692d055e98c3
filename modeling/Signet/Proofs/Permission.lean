import Signet.Permission.Table

/-! Capabilities one by one. A set is told by the bits that it holds, and names stand for the bits of
their sets together. Where one of them is not known, the first such name is told instead. -/

namespace Signet.Permission

variable {first second granted required : Permission} {bit : Nat}

/-- The capability of this bit is in the set. -/
def Holds (permission : Permission) (bit : Nat) : Prop := permission.bits.getLsbD bit = true

instance (permission : Permission) (bit : Nat) : Decidable (permission.Holds bit) :=
  inferInstanceAs (Decidable (_ = true))

theorem holds_or : (first ||| second).Holds bit ↔ first.Holds bit ∨ second.Holds bit := by
  show (first.bits ||| second.bits).getLsbD bit = true ↔ _
  rw [BitVec.getLsbD_or, Bool.or_eq_true]
  exact Iff.rfl

theorem not_holds_empty (bit : Nat) : ¬ empty.Holds bit := by
  show ¬ (0 : BitVec 53).getLsbD bit = true
  simp

/-- Sets with the same bits are the same. -/
theorem eq_of_holds_iff (same : ∀ bit, first.Holds bit ↔ second.Holds bit) : first = second := by
  obtain ⟨bits⟩ := first
  obtain ⟨others⟩ := second
  refine congrArg Permission.mk (BitVec.eq_of_getLsbD_eq fun bit _ => ?_)
  exact Bool.eq_iff_iff.mpr (same bit)

/-- A set holds all that is required if it holds every bit of it. -/
theorem hasAll_iff : granted.hasAll required = true ↔
    ∀ bit, required.Holds bit → granted.Holds bit := by
  rw [hasAll, decide_eq_true_iff]
  constructor
  · intro same bit holds
    have both : (granted.bits &&& required.bits).getLsbD bit = true := by
      rw [same]
      exact holds
    rw [BitVec.getLsbD_and, Bool.and_eq_true] at both
    exact both.1
  · intro each
    apply BitVec.eq_of_getLsbD_eq
    intro bit _
    rw [BitVec.getLsbD_and]
    by_cases holds : required.bits.getLsbD bit = true
    · rw [each bit holds, holds, Bool.and_self]
    · rw [Bool.eq_false_iff.mpr holds, Bool.and_false]

/-- What is required together is what is required one by one. -/
theorem hasAll_or : granted.hasAll (first ||| second) = true ↔
    granted.hasAll first = true ∧ granted.hasAll second = true := by
  simp only [hasAll_iff, holds_or, or_imp, forall_and]

namespace Table

variable {table other : Table} {names others : List String} {name : String}
  {permission found : Permission} {privileged : Bool} {result : Except AuthError Permission}

/-- A name stands for a set: for that of the ordinary side, or, where the privileged side counts and
the ordinary one does not know the name, for that of the privileged side. -/
inductive Stands (table : Table) (privileged : Bool) (name : String) (found : Permission) : Prop where
  | ordinary (entry : table.ordinary.find? name = some found)
  | privileged (counts : privileged = true) (absent : table.ordinary.find? name = none)
      (entry : table.privileged.find? name = some found)

/-- A side that counts knows the name. -/
def Known (table : Table) (privileged : Bool) (name : String) : Prop :=
  (∃ found, table.ordinary.find? name = some found) ∨
    privileged = true ∧ ∃ found, table.privileged.find? name = some found

/-- One of the names stands for a set with this bit. -/
def Bears (table : Table) (privileged : Bool) (names : List String) (bit : Nat) : Prop :=
  ∃ name ∈ names, ∃ found, table.Stands privileged name found ∧ found.Holds bit

/-- One of the names stands for a set with this bit on the ordinary side. -/
def Ordinary (table : Table) (names : List String) (bit : Nat) : Prop :=
  ∃ name ∈ names, ∃ found, table.ordinary.find? name = some found ∧ found.Holds bit

/-- What names come to: if each is known, the set of the bits that they bear; else an error that tells
the first that is not. -/
inductive Resolves (table : Table) (names : List String) (privileged : Bool) :
    Except AuthError Permission → Prop where
  | known {permission : Permission} (each : ∀ name ∈ names, table.Known privileged name)
      (bits : ∀ bit, permission.Holds bit ↔ table.Bears privileged names bit) :
      Resolves table names privileged (.ok permission)
  | unknown {front back : List String} {name : String} (split : names = front ++ name :: back)
      (each : ∀ earlier ∈ front, table.Known privileged earlier)
      (stranger : ¬ table.Known privileged name) :
      Resolves table names privileged (.error (.unrecognizedPermission name))

theorem find?_eq_some_iff :
    table.find? privileged name = some found ↔ table.Stands privileged name found := by
  constructor
  · intro seen
    cases entry : table.ordinary.find? name with
    | some value =>
      rw [find?, entry, Option.some_or] at seen
      obtain rfl := Option.some.inj seen
      exact .ordinary entry
    | none =>
      rw [find?, entry, Option.none_or] at seen
      split at seen
      case isTrue counts => exact .privileged counts entry seen
      case isFalse => cases seen
  · rintro (entry | ⟨counts, absent, entry⟩)
    · rw [find?, entry, Option.some_or]
    · rw [find?, absent, Option.none_or, if_pos counts, entry]

theorem stands_ordinary_iff :
    table.Stands false name found ↔ table.ordinary.find? name = some found := by
  constructor
  · rintro (entry | ⟨counts, -, -⟩)
    · exact entry
    · cases counts
  · exact .ordinary

theorem known_iff : table.Known privileged name ↔ ∃ found, table.Stands privileged name found := by
  constructor
  · rintro (⟨found, entry⟩ | ⟨counts, found, entry⟩)
    · exact ⟨found, .ordinary entry⟩
    · cases ordinary : table.ordinary.find? name with
      | some value => exact ⟨value, .ordinary ordinary⟩
      | none => exact ⟨found, .privileged counts ordinary entry⟩
  · rintro ⟨found, entry | ⟨counts, -, entry⟩⟩
    · exact .inl ⟨found, entry⟩
    · exact .inr ⟨counts, found, entry⟩

theorem Stands.unique (one : table.Stands privileged name found)
    (other : table.Stands privileged name permission) : found = permission :=
  Option.some.inj ((find?_eq_some_iff.mpr one).symm.trans (find?_eq_some_iff.mpr other))

theorem find?_eq_none_iff : table.find? privileged name = none ↔ ¬ table.Known privileged name := by
  rw [known_iff, Option.eq_none_iff_forall_ne_some, not_exists]
  exact forall_congr' fun found => not_congr find?_eq_some_iff

theorem bears_nil (bit : Nat) : ¬ table.Bears privileged [] bit := by
  rintro ⟨name, member, -⟩
  cases member

theorem bears_append : table.Bears privileged (names ++ others) bit ↔
    table.Bears privileged names bit ∨ table.Bears privileged others bit := by
  simp only [Bears, List.mem_append, or_and_right, exists_or]

theorem bears_cons (stands : table.Stands privileged name found) :
    table.Bears privileged (name :: names) bit ↔
      found.Holds bit ∨ table.Bears privileged names bit := by
  rw [← List.singleton_append, bears_append]
  refine or_congr_left ⟨?_, fun holds => ⟨name, List.mem_singleton_self name, found, stands, holds⟩⟩
  rintro ⟨each, member, also, seen, holds⟩
  obtain rfl := List.mem_singleton.mp member
  exact stands.unique seen ▸ holds

theorem bears_ordinary_iff : table.Bears false names bit ↔ table.Ordinary names bit := by
  simp only [Bears, Ordinary, stands_ordinary_iff]

/-- Known names add their bits to those that are there. -/
theorem resolveFrom_of_known (each : ∀ name ∈ names, table.Known privileged name)
    (start : Permission) : ∃ permission,
      table.resolveFrom privileged start names = .ok permission ∧
        ∀ bit, permission.Holds bit ↔ start.Holds bit ∨ table.Bears privileged names bit := by
  induction names generalizing start with
  | nil => exact ⟨start, rfl, fun bit => (or_iff_left (bears_nil bit)).symm⟩
  | cons name names ih =>
    obtain ⟨found, stands⟩ := known_iff.mp (each name (List.mem_cons_self ..))
    have others : ∀ other ∈ names, table.Known privileged other :=
      fun other member => each other (List.mem_cons_of_mem _ member)
    obtain ⟨permission, resolved, bits⟩ := ih others (start ||| found)
    refine ⟨permission, ?_, fun bit => ?_⟩
    · rw [resolveFrom, find?_eq_some_iff.mpr stands]
      exact resolved
    · rw [bits, holds_or, bears_cons stands, or_assoc]

/-- Nothing that stands behind the first unknown name counts, nor what stands before it. -/
theorem resolveFrom_of_unknown {front : List String}
    (each : ∀ earlier ∈ front, table.Known privileged earlier)
    (stranger : ¬ table.Known privileged name) (back : List String) (start : Permission) :
    table.resolveFrom privileged start (front ++ name :: back) =
      .error (.unrecognizedPermission name) := by
  induction front generalizing start with
  | nil => rw [List.nil_append, resolveFrom, find?_eq_none_iff.mpr stranger]
  | cons earlier front ih =>
    obtain ⟨found, stands⟩ := known_iff.mp (each earlier (List.mem_cons_self ..))
    rw [List.cons_append, resolveFrom, find?_eq_some_iff.mpr stands]
    exact ih (fun other member => each other (List.mem_cons_of_mem _ member)) (start ||| found)

theorem exists_first_unknown (missing : ¬ ∀ name ∈ names, table.Known privileged name) :
    ∃ front name back, names = front ++ name :: back ∧
      (∀ earlier ∈ front, table.Known privileged earlier) ∧ ¬ table.Known privileged name := by
  induction names with
  | nil => exact absurd (List.forall_mem_nil _) missing
  | cons name names ih =>
    by_cases known : table.Known privileged name
    · have later : ¬ ∀ other ∈ names, table.Known privileged other :=
        fun each => missing (List.forall_mem_cons.mpr ⟨known, each⟩)
      obtain ⟨front, stranger, back, rfl, each, unknown⟩ := ih later
      exact ⟨name :: front, stranger, back, rfl, List.forall_mem_cons.mpr ⟨known, each⟩, unknown⟩
    · exact ⟨[], name, names, rfl, List.forall_mem_nil _, known⟩

namespace Resolves

theorem eq (resolves : table.Resolves names privileged result) :
    table.resolve names privileged = result := by
  cases resolves with
  | known each bits =>
    obtain ⟨permission, resolved, same⟩ := resolveFrom_of_known each empty
    rw [resolve, resolved]
    refine congrArg Except.ok (eq_of_holds_iff fun bit => ?_)
    rw [same, bits, or_iff_right (not_holds_empty bit)]
  | unknown split each stranger =>
    rw [resolve, split]
    exact resolveFrom_of_unknown each stranger _ empty

/-- Lists of names that come to sets come to the union of these together. -/
theorem append {first second : Permission} (one : table.Resolves names privileged (.ok first))
    (other : table.Resolves others privileged (.ok second)) :
    table.Resolves (names ++ others) privileged (.ok (first ||| second)) := by
  cases one with
  | known each bits =>
    cases other with
    | known also more =>
      refine .known (List.forall_mem_append.mpr ⟨each, also⟩) fun bit => ?_
      rw [holds_or, bits, more, bears_append]

/-- Neither the order of the names counts nor how often each of them stands there. -/
theorem of_mem_iff (same : ∀ name, name ∈ others ↔ name ∈ names)
    (resolves : table.Resolves names privileged (.ok permission)) :
    table.Resolves others privileged (.ok permission) := by
  cases resolves with
  | known each bits =>
    refine .known (fun name member => each name ((same name).mp member)) fun bit => ?_
    rw [bits, Bears, Bears]
    simp only [same]

/-- Whoever has all that names stand for has what each of them stands for. -/
theorem hasAll_iff (resolves : table.Resolves names privileged (.ok permission)) :
    granted.hasAll permission = true ↔ ∀ name ∈ names, ∃ found,
      table.Stands privileged name found ∧ granted.hasAll found = true := by
  cases resolves with
  | known each bits =>
    rw [Permission.hasAll_iff]
    constructor
    · intro covers name member
      obtain ⟨found, stands⟩ := known_iff.mp (each name member)
      refine ⟨found, stands, Permission.hasAll_iff.mpr fun bit holds => ?_⟩
      exact covers bit ((bits bit).mpr ⟨name, member, found, stands, holds⟩)
    · intro covers bit holds
      obtain ⟨name, member, found, stands, inside⟩ := (bits bit).mp holds
      obtain ⟨also, seen, covered⟩ := covers name member
      obtain rfl := stands.unique seen
      exact Permission.hasAll_iff.mp covered bit inside

/-- What the ordinary side knows does not change when the privileged one counts as well. -/
theorem with_privileged (resolves : table.Resolves names false (.ok permission)) :
    table.Resolves names true (.ok permission) := by
  cases resolves with
  | known each bits =>
    have ordinary : ∀ name ∈ names, ∃ found, table.ordinary.find? name = some found :=
      fun name member => (each name member).resolve_right fun both => Bool.false_ne_true both.1
    refine .known (fun name member => .inl (ordinary name member)) fun bit => (bits bit).trans ?_
    refine exists_congr fun name => and_congr_right fun member => exists_congr fun found =>
      and_congr_left fun _ => ?_
    obtain ⟨value, entry⟩ := ordinary name member
    constructor
    · exact fun stands => .ordinary (stands_ordinary_iff.mp stands)
    · exact fun stands => (Stands.ordinary entry).unique stands ▸ .ordinary entry

/-- Where the privileged side does not count, it does not matter. -/
theorem of_ordinary_eq (same : other.ordinary = table.ordinary)
    (resolves : table.Resolves names false result) : other.Resolves names false result := by
  have known : ∀ name, other.Known false name ↔ table.Known false name := by
    intro name
    rw [known_iff, known_iff]
    simp only [stands_ordinary_iff, same]
  cases resolves with
  | known each bits =>
    refine .known (fun name member => (known name).mpr (each name member)) fun bit => ?_
    rw [bits, bears_ordinary_iff, bears_ordinary_iff, Ordinary, Ordinary, same]
  | unknown split each stranger =>
    exact .unknown split (fun name member => (known name).mpr (each name member))
      fun also => stranger ((known _).mp also)

end Resolves

theorem resolves (table : Table) (names : List String) (privileged : Bool) :
    table.Resolves names privileged (table.resolve names privileged) := by
  by_cases each : ∀ name ∈ names, table.Known privileged name
  · obtain ⟨permission, resolved, bits⟩ := resolveFrom_of_known each empty
    rw [resolve, resolved]
    refine .known each fun bit => ?_
    rw [bits, or_iff_right (not_holds_empty bit)]
  · obtain ⟨front, name, back, rfl, earlier, stranger⟩ := exists_first_unknown each
    rw [resolve, resolveFrom_of_unknown earlier stranger back empty]
    exact .unknown rfl earlier stranger

/-- Names come to a set just if each of them is known, and then to the bits that they bear; lists of
names come to the union of what each list comes to. The privileged side takes nothing away where it
counts, and changes nothing where it does not. -/
theorem resolve_exact (table : Table) :
    (∀ names privileged result,
      table.resolve names privileged = result ↔ table.Resolves names privileged result) ∧
    (∀ names others privileged first second, table.resolve names privileged = .ok first →
      table.resolve others privileged = .ok second →
        table.resolve (names ++ others) privileged = .ok (first ||| second)) ∧
    (∀ names permission, table.resolve names false = .ok permission →
      table.resolve names true = .ok permission) ∧
    ∀ other : Table, other.ordinary = table.ordinary → ∀ names,
      other.resolve names false = table.resolve names false := by
  refine ⟨?_, ?_, ?_, ?_⟩
  · intro names privileged result
    exact ⟨fun same => same ▸ table.resolves names privileged, Resolves.eq⟩
  · intro names others privileged first second one two
    exact ((one ▸ table.resolves names privileged).append (two ▸ table.resolves others privileged)).eq
  · intro names permission resolved
    exact (resolved ▸ table.resolves names false).with_privileged.eq
  · intro other same names
    exact ((table.resolves names false).of_ordinary_eq same).eq

/-- A table that knows one of its names on both sides. -/
def sample : Table where
  ordinary := Dict.ofList [("read", ⟨1⟩)]
  privileged := Dict.ofList [("read", ⟨2⟩), ("grant", ⟨4⟩)]

/-- The ordinary side comes first, whether or not the privileged one counts; where that does not, its
names are as good as none. -/
theorem resolve_sample :
    sample.resolve ["read", "grant"] true = .ok (⟨1⟩ ||| ⟨4⟩) ∧
    sample.resolve ["read"] true = .ok ⟨1⟩ ∧
    sample.resolve ["read", "grant", "other"] false = .error (.unrecognizedPermission "grant") ∧
    (⟨sample.ordinary, Dict.empty⟩ : Table).resolve ["read", "grant", "other"] false =
      .error (.unrecognizedPermission "grant") := by
  obtain ⟨comes, append, privileged, ordinary⟩ := resolve_exact sample
  have unknown : sample.resolve ["read", "grant", "other"] false =
      .error (.unrecognizedPermission "grant") := by
    apply (comes _ _ _).mpr
    refine .unknown (show _ = ["read"] ++ "grant" :: ["other"] from rfl) ?_ ?_
    · exact List.forall_mem_singleton.mpr (.inl ⟨⟨1⟩, rfl⟩)
    · rintro (⟨found, entry⟩ | ⟨counts, -⟩)
      · cases entry
      · cases counts
  exact ⟨append ["read"] ["grant"] true ⟨1⟩ ⟨4⟩ rfl rfl, privileged ["read"] ⟨1⟩ rfl, unknown,
    (ordinary ⟨sample.ordinary, Dict.empty⟩ rfl _).trans unknown⟩

/-- Without the privileged side, names resolve to nothing but the bits that they stand for on the
ordinary side. -/
theorem holds_of_resolve (resolved : table.resolve names false = .ok permission) :
    permission.Holds bit ↔ table.Ordinary names bit := by
  have resolves := resolved ▸ table.resolves names false
  cases resolves with
  | known each bits => rw [bits, bears_ordinary_iff]

/-- A single name that stands for nothing is enough for an error. -/
theorem resolve_ne_ok (asked : name ∈ names) (unknown : table.find? privileged name = none)
    (permission : Permission) : table.resolve names privileged ≠ .ok permission := by
  intro resolved
  have resolves := resolved ▸ table.resolves names privileged
  cases resolves with
  | known each bits => exact find?_eq_none_iff.mp unknown (each name asked)

/-- Names fail to stand for anything only because one of them is not known. -/
theorem resolve_eq_error {error : AuthError} (failed : table.resolve names privileged = .error error) :
    ∃ name, error = .unrecognizedPermission name := by
  have resolves := failed ▸ table.resolves names privileged
  cases resolves with
  | @unknown front back name split each stranger => exact ⟨name, rfl⟩

/-- No name of the ordinary side stands for a built-in privilege. -/
theorem not_ordinary_of_privilege (privilege : (grantPermission ||| revokeSession).Holds bit) :
    ¬ standard.Ordinary names bit := by
  rintro ⟨name, -, found, stands, holds⟩
  have apart : ∀ entry ∈ standard.ordinary.entries,
      entry.2.bits &&& (grantPermission ||| revokeSession).bits = 0 := by
    decide
  have none := apart _ ((Dict.mem_entries_iff _ _ _).mpr stands)
  have both : (found.bits &&& (grantPermission ||| revokeSession).bits).getLsbD bit = true := by
    rw [BitVec.getLsbD_and, Bool.and_eq_true]
    exact ⟨holds, privilege⟩
  rw [none] at both
  simp at both

end Table
end Signet.Permission
