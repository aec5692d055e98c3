import Signet.Proofs.Pack.Structure

/-! What is lost in packed form. Of a list of equally long items that takes more than two bytes to
tell its size, the reader misses the last item, and where there is only one, it breaks off; so
whatever comes back whole was tame. -/

namespace Signet

namespace Pack

variable {α β σ : Type} {bytes : Bytes}

/-- There is no reading on behind the beginning of these bytes, whatever follows them. -/
def Breaks (reader : Reader Fault α) (bytes : Bytes) : Prop :=
  ∀ rest, ∃ after, reader (bytes ++ rest) = .error .abort after

theorem Breaks.bind {first : Reader Fault α} {next : α → Reader Fault β} {bytes : Bytes}
    (breaks : Breaks first bytes) : Breaks (first >>= next) bytes := by
  intro rest
  obtain ⟨after, error⟩ := breaks rest
  exact ⟨after, Reader.bind_of_error error⟩

/-- If this value is read where these bytes stand, whatever follows them, then this holds. -/
def Tells (reader : Reader Fault α) (bytes : Bytes) (value : α) (holds : Prop) : Prop :=
  ∀ rest after, reader (bytes ++ rest) = .ok value after → holds

/-- What a reader answers in the place of a value tells what the value tells. -/
theorem Tells.bind {reader : Reader Fault α} {next : α → Reader Fault β} {bytes : Bytes}
    {value : α} {result : β} {holds : Prop} (tells : Tells reader bytes value holds)
    (same : ∀ found rest after, next found rest = .ok result after → found = value) :
    Tells (reader >>= next) bytes result holds := by
  intro rest after read
  obtain ⟨found, behind, first, last⟩ := Reader.bind_eq_ok_iff.mp read
  obtain rfl := same found behind after last
  exact tells rest behind first

theorem ensures_items (item : Reader Fault α) (count : Nat) :
    Reader.Ensures (items item count) fun found => found.length = count := by
  induction count with
  | zero => exact Reader.ensures_pure rfl
  | succ count ih =>
    refine Reader.ensures_bind fun first => ih.bind fun others same => ?_
    exact Reader.ensures_pure (by rw [List.length_cons, same])

/-- Long items of one length are written with a size of four bytes. -/
theorem list_of_long {items : List Bytes}
    (uniform : ∀ item ∈ items, ∀ other ∈ items, item.length = other.length)
    (long : 65533 ≤ items.flatten.length) :
    Print.list items = 0x04 :: littleEndian 4 (items.flatten.length + 4) ++ items.flatten := by
  cases items with
  | nil => simp at long
  | cons first others =>
    have all : (first :: others).all (·.length = first.length) = true :=
      List.all_eq_true.mpr fun item member =>
        decide_eq_true (uniform item member first (List.mem_cons_self ..))
    have medium : ¬ (first :: others).flatten.length < 254 := by omega
    have narrow : ¬ (first :: others).flatten.length < 65533 := by omega
    simp only [Print.list, all, ↓reduceIte, Print.even, if_neg medium, if_neg narrow]

/-- Of such a size, the reader makes one byte too few. -/
theorem list_of_sized_long {item : Reader Fault α} {body : Bytes} (some : 0 < body.length)
    (fits : body.length + 4 < capacity 4) (solid : Solid body) (rest : Bytes) :
    list item (0x04 :: littleEndian 4 (body.length + 4) ++ body ++ rest) =
      evenItems item (body.length - 1) (body ++ rest) := by
  have left : body.length + 4 - (1 + 4) = body.length - 1 := by omega
  rw [list_of_sized (by decide) rfl fits (by omega) solid, left]

/-- There is no reading on behind the only item of a list if it is so long. -/
theorem breaks_list {item : Reader Fault α} {value : α} (reads : Reads item bytes value)
    (solid : Solid bytes) (long : 65533 ≤ bytes.length) (fits : bytes.length + 4 < capacity 4) :
    Breaks (list item) (Print.list [bytes]) := by
  have alone : [bytes].flatten = bytes := List.flatten_singleton
  have written : Print.list [bytes] = _ := list_of_long (by simp) (alone.symm ▸ long)
  rw [alone] at written
  intro rest
  rw [written, list_of_sized_long (by omega) fits solid, evenItems_of_overlong reads (by omega)]
  exact ⟨rest, rfl⟩

section

variable {item : Reader Fault α} {write : α → Bytes} {values : List α}
  (solid : ∀ value ∈ values, Solid (write value))
  (each : ∀ value ∈ values, Reads item (write value) value)
include solid each

/-- If the size of a list without a table is taken for one less than it is, then fewer items are
read than there are. -/
theorem length_lt_of_evenItems (some : values ≠ [])
    (uniform : ∀ value ∈ values, ∀ other ∈ values, (write value).length = (write other).length)
    {rest after : Bytes} {found : List α}
    (read : evenItems item ((values.map write).flatten.length - 1)
      ((values.map write).flatten ++ rest) = .ok found after) : found.length < values.length := by
  cases values with
  | nil => exact absurd rfl some
  | cons first others =>
    have one := each first (List.mem_cons_self ..)
    have positive : 0 < (write first).length := (solid first (List.mem_cons_self ..)).length_pos
    have same : ∀ part ∈ (first :: others).map write, part.length = (write first).length := by
      intro part member
      obtain ⟨value, among, rfl⟩ := List.mem_map.mp member
      exact uniform value among first (List.mem_cons_self ..)
    have whole := length_flatten_of_uniform same
    rw [List.length_map, List.length_cons] at whole
    rw [whole, List.map_cons, List.flatten_cons, List.append_assoc] at read
    cases others with
    | nil =>
      rw [List.length_nil, Nat.zero_add, Nat.one_mul,
        evenItems_of_overlong one (Nat.sub_one_lt_of_lt positive)] at read
      cases read
    | cons second others =>
      have more : (write first).length ≤
          ((second :: others).length + 1) * (write first).length - 1 := by
        rw [List.length_cons, Nat.add_one_mul, Nat.add_one_mul]
        omega
      have fewer : (((second :: others).length + 1) * (write first).length - 1) /
          (write first).length = (second :: others).length := by
        rw [Nat.mul_comm, Nat.mul_sub_div 0 _ _ (Nat.mul_pos positive (Nat.succ_pos _)),
          Nat.zero_div, Nat.zero_add, Nat.succ_sub_one]
      rw [evenItems_of_reads one positive more, fewer] at read
      obtain ⟨later, behind, tail, last⟩ := Reader.bind_eq_ok_iff.mp read
      obtain ⟨rfl, -⟩ := Reader.pure_eq_ok_iff.mp last
      have count := ensures_items item _ _ _ _ tail
      simp only [List.length_cons] at count ⊢
      omega

/-- A list whose items all come back is tame. -/
theorem tells_list (short : (Print.list (values.map write)).length < capacity 4) :
    Tells (list item) (Print.list (values.map write)) values (Tame (values.map write)) := by
  intro rest after read uniform
  refine Nat.lt_of_not_le fun long => ?_
  have some : values ≠ [] := by
    rintro rfl
    simp at long
  have written := list_of_long uniform long
  have size : (values.map write).flatten.length + 4 < capacity 4 := by
    rw [written, List.length_append, List.length_cons, length_littleEndian] at short
    omega
  rw [written, list_of_sized_long (by omega) size (solid_flatten solid some)] at read
  have equal : ∀ value ∈ values, ∀ other ∈ values, (write value).length = (write other).length :=
    fun _ member _ among =>
      uniform _ (List.mem_map_of_mem member) _ (List.mem_map_of_mem among)
  exact Nat.lt_irrefl _ (length_lt_of_evenItems solid each some equal read)

end

theorem length_of_take {count : Nat} {absent : Fault} {input taken after : Bytes}
    (read : take count absent input = .ok taken after) : input.length = count + after.length := by
  simp only [take, List.length_take] at read
  split at read
  case isTrue whole =>
    cases read
    rw [List.length_drop]
    omega
  case isFalse => cases read

/-- Reading a whole number takes a byte at least. -/
theorem length_lt_of_below {bound number : Nat} {input after : Bytes}
    (read : below bound input = .ok number after) : after.length < input.length := by
  cases input with
  | nil => cases read
  | cons byte rest =>
    rw [below, Reader.bind_of_ok (lead_cons _ _)] at read
    split at read
    case isTrue =>
      rw [Reader.bind_of_ok (Reader.skip_cons _ _)] at read
      obtain ⟨-, rfl⟩ := Reader.pure_eq_ok_iff.mp read
      exact Nat.lt_succ_self _
    case isFalse =>
      split at read
      case isFalse => cases read
      case isTrue =>
        rw [Reader.bind_of_ok (Reader.skip_cons _ _)] at read
        obtain ⟨found, behind, sized, checked⟩ := Reader.bind_eq_ok_iff.mp read
        obtain ⟨bytes, left, taken, kept⟩ := Reader.bind_eq_ok_iff.mp sized
        obtain ⟨-, rfl⟩ := Reader.pure_eq_ok_iff.mp kept
        have less := length_of_take taken
        split at checked
        case isFalse => cases checked
        case isTrue =>
          obtain ⟨-, rfl⟩ := Reader.pure_eq_ok_iff.mp checked
          rw [List.length_cons]
          omega

theorem length_lt_of_unsigned {number : UInt64} {input after : Bytes}
    (read : unsigned input = .ok number after) : after.length < input.length := by
  obtain ⟨found, behind, first, last⟩ := Reader.bind_eq_ok_iff.mp read
  obtain ⟨-, rfl⟩ := Reader.pure_eq_ok_iff.mp last
  exact length_lt_of_below first

/-- A number that comes back has no more than seven bytes. -/
theorem tells_unsigned {number : UInt64} (written : kept number = 0 → number = 0) :
    Tells unsigned (Print.unsigned number) number (number.toNat < capacity 7) := by
  intro rest after read
  rw [reads_unsigned written] at read
  have same : UInt64.ofNat (kept number) = number := by
    injection read
  have small : kept number < capacity 7 := Nat.mod_lt _ (by decide)
  rw [← same]
  exact Nat.lt_of_le_of_lt (Nat.mod_le _ _) small

/-- Nor has one that comes back from where the bytes behind it are all there, for if nothing is
written of a number, it is read from these. -/
theorem lt_of_read_unsigned {number : UInt64} {table behind : Bytes}
    (read : unsigned (Print.unsigned number ++ table) = .ok number behind)
    (whole : table.length ≤ behind.length) : number.toNat < capacity 7 := by
  by_cases written : kept number = 0 → number = 0
  · exact tells_unsigned written table behind read
  · obtain ⟨none, some⟩ := Classical.not_imp.mp written
    have large : ¬ number.toNat < 10 := by
      intro digit
      have same : kept number = number.toNat :=
        Nat.mod_eq_of_lt (Nat.lt_trans digit (by decide))
      exact some (UInt64.toNat.inj (same ▸ none))
    have nothing : Print.unsigned number = [] := by
      have zero : byteWidth 0 = 0 := by rw [byteWidth, if_pos rfl]
      rw [kept] at none
      simp only [Print.unsigned, if_neg large, none, zero]
    rw [nothing, List.nil_append] at read
    have less := length_lt_of_unsigned read
    omega

/-- Behind what an object holds stands its table, which has to be there. -/
theorem of_enclosed {members : Nat → Reader Fault α} {named : List (String × Bytes)} {value : α}
    {rest after : Bytes} (short : (Print.object named).length < capacity 8)
    (read : enclosed members (Print.object named ++ rest) = .ok value after) :
    ∃ table behind, members named.length ((named.map part).flatten ++ (table ++ rest)) =
      .ok value behind ∧ behind.length = table.length + after.length := by
  obtain ⟨table, same⟩ := enclosed_object members short
  rw [same] at read
  obtain ⟨held, behind, first, last⟩ := Reader.bind_eq_ok_iff.mp read
  obtain ⟨passed, left, taken, kept⟩ := Reader.bind_eq_ok_iff.mp last
  obtain ⟨rfl, rfl⟩ := Reader.pure_eq_ok_iff.mp kept
  exact ⟨table, behind, first, length_of_take taken⟩

/-- Nor is an object read on whose parts cannot be. -/
theorem breaks_enclosed {members : Nat → Reader Fault α} {named : List (String × Bytes)}
    (short : (Print.object named).length < capacity 8)
    (breaks : Breaks (members named.length) (named.map part).flatten) :
    Breaks (enclosed members) (Print.object named) := by
  obtain ⟨table, same⟩ := enclosed_object members short
  intro rest
  rw [same]
  exact breaks.bind (table ++ rest)

/-- Nor is a record whose first member cannot be. -/
theorem breaks_record {members : List (Member σ)} {member : Member σ} {draft : σ} {name : String}
    {others : List (String × Bytes)} {finish : σ → Option α}
    (short : (Print.object ((name, bytes) :: others)).length < capacity 8)
    (asked : members.find? (·.name = name) = some member) (empty : member.filled draft = false)
    (breaks : Breaks (member.fill draft) bytes) :
    Breaks (record members draft finish) (Print.object ((name, bytes) :: others)) := by
  have named := short_member (name, bytes) (List.mem_cons_self ..) short
  refine (breaks_enclosed short fun rest => ?_).bind
  rw [bounded_eq fun count => recordMembers members count draft, List.length_cons, List.map_cons,
    List.flatten_cons, part, List.append_assoc, List.append_assoc, recordMembers,
    Reader.bind_of_ok (reads_text named.1 _)]
  simp only [asked, empty, Bool.false_eq_true, ↓reduceIte]
  exact breaks.bind _

theorem decode_of_breaks {reader : Reader Fault α} (breaks : Breaks reader bytes) :
    decode reader bytes = .error .abort := by
  obtain ⟨after, error⟩ := breaks []
  rw [List.append_nil] at error
  rw [decode, Reader.run, finished, Reader.bind_of_error error]

theorem of_decode {reader : Reader Fault α} {bytes : Bytes} {value : α}
    (read : decode reader bytes = .ok value) : reader bytes = .ok value [] := by
  unfold decode Reader.run at read
  split at read
  case h_2 => cases read
  case h_1 found after whole =>
    cases read
    obtain ⟨found, behind, first, last⟩ := Reader.bind_eq_ok_iff.mp whole
    cases behind with
    | nil =>
      obtain ⟨rfl, -⟩ := Reader.pure_eq_ok_iff.mp last
      exact first
    | cons byte behind => cases last

theorem decode_of_tells {reader : Reader Fault α} {bytes : Bytes} {value : α} {holds : Prop}
    (tells : Tells reader bytes value holds) (read : decode reader bytes = .ok value) : holds := by
  have whole := of_decode read
  rw [← List.append_nil bytes] at whole
  exact tells [] [] whole

/-- If all items come back, then each of them has. -/
theorem tells_items {item : Reader Fault α} {write : α → Bytes} {values : List α} {tame : α → Prop}
    (each : ∀ value ∈ values, Tells item (write value) value (tame value))
    (reads : ∀ value ∈ values, tame value → Reads item (write value) value) :
    Tells (items item values.length) (values.map write).flatten values
      (∀ value ∈ values, tame value) := by
  induction values with
  | nil => exact fun _ _ _ _ => nofun
  | cons value values ih =>
    have later := ih (fun other member => each other (List.mem_cons_of_mem _ member))
      fun other member => reads other (List.mem_cons_of_mem _ member)
    intro rest after read
    rw [List.map_cons, List.flatten_cons, List.append_assoc] at read
    obtain ⟨first, behind, one, tail⟩ := Reader.bind_eq_ok_iff.mp read
    obtain ⟨others, left, more, whole⟩ := Reader.bind_eq_ok_iff.mp tail
    obtain ⟨same, rfl⟩ := Reader.pure_eq_ok_iff.mp whole
    obtain ⟨rfl, rfl⟩ := List.cons.inj same
    have good := each first (List.mem_cons_self ..) _ _ one
    -- What is tame ends where it is written to end, so the others stand where they are read.
    rw [reads first (List.mem_cons_self ..) good] at one
    injection one with _ place
    subst place
    exact List.forall_mem_cons.mpr ⟨good, later rest left more⟩

section

variable {value : Reader Fault α} {write : α → Bytes} {entries : List (String × α)}
  (short : (Print.object (entries.map fun entry => (entry.1, write entry.2))).length < capacity 8)
include short

private theorem of_map {rest after : Bytes} {found : List (String × α)}
    (read : map value (Print.object (entries.map fun entry => (entry.1, write entry.2)) ++ rest) =
      .ok found after) : ∃ table behind, pairs value entries.length
        ((entries.map fun entry => part (entry.1, write entry.2)).flatten ++ (table ++ rest)) =
          .ok found behind := by
  obtain ⟨table, behind, held, -⟩ := of_enclosed short read
  rw [bounded_eq (pairs value), List.length_map, List.map_map] at held
  exact ⟨table, behind, held⟩

/-- Of a map as many entries are read as there are, right or wrong. -/
theorem length_of_map {rest after : Bytes} {found : List (String × α)}
    (read : map value (Print.object (entries.map fun entry => (entry.1, write entry.2)) ++ rest) =
      .ok found after) : found.length = entries.length := by
  obtain ⟨table, behind, held⟩ := of_map short read
  exact ensures_items _ _ _ _ _ held

/-- If a map comes back, then each of its values has. -/
theorem tells_map {tame : α → Prop}
    (each : ∀ entry ∈ entries, Tells value (write entry.2) entry.2 (tame entry.2))
    (reads : ∀ entry ∈ entries, tame entry.2 → Reads value (write entry.2) entry.2) :
    Tells (map value) (Print.object (entries.map fun entry => (entry.1, write entry.2))) entries
      (∀ entry ∈ entries, tame entry.2) := by
  have named : ∀ entry ∈ entries, Reads text (Print.text entry.1) entry.1 := by
    intro entry inside
    have belongs : (entry.1, write entry.2) ∈ entries.map fun entry => (entry.1, write entry.2) :=
      List.mem_map_of_mem inside
    exact reads_text (short_member _ belongs short).1
  have all : Tells (pairs value entries.length)
      (entries.map fun entry => part (entry.1, write entry.2)).flatten entries
      (∀ entry ∈ entries, tame entry.2) := by
    refine tells_items ?_ ?_
    · intro entry inside rest after read
      rw [part, List.append_assoc, Reader.bind_of_ok (named entry inside _)] at read
      obtain ⟨found, behind, one, last⟩ := Reader.bind_eq_ok_iff.mp read
      obtain ⟨same, rfl⟩ := Reader.pure_eq_ok_iff.mp last
      obtain rfl : found = entry.2 := congrArg Prod.snd same
      exact each entry inside _ _ one
    · intro entry inside good
      exact (named entry inside).append ((reads entry inside good).bind fun _ => rfl)
  intro rest after read
  obtain ⟨table, behind, held⟩ := of_map short read
  exact all _ _ held

end

/-- What has been read as a record has been read member by member, in front of the table. -/
theorem of_decode_record {members : List (Member σ)} {draft : σ} {named : List (String × Bytes)}
    {finish : σ → Option α} {value : α} (short : (Print.object named).length < capacity 8)
    (read : decode (record members draft finish) (Print.object named) = .ok value) :
    ∃ table last behind, recordMembers members named.length draft
      ((named.map part).flatten ++ table) = .ok last behind ∧ table.length ≤ behind.length ∧
        finish last = some value := by
  have whole := of_decode read
  rw [record, ← List.append_nil (Print.object named)] at whole
  obtain ⟨last, left, first, told⟩ := Reader.bind_eq_ok_iff.mp whole
  obtain ⟨table, behind, filled, long⟩ := of_enclosed short first
  rw [List.append_nil, bounded_eq fun count => recordMembers members count draft] at filled
  refine ⟨table, last, behind, filled, long ▸ Nat.le_add_right .., ?_⟩
  cases done : finish last with
  | none =>
    rw [done] at told
    cases told
  | some found =>
    rw [done] at told
    exact congrArg some (Reader.pure_eq_ok_iff.mp told).1

/-- The first member fills the draft, and then the others do. -/
theorem of_recordMembers {members : List (Member σ)} {member : Member σ} {draft last : σ}
    {name : String} {bytes rest after : Bytes} {count : Nat}
    (short : (Print.text name).length < capacity 8)
    (asked : members.find? (·.name = name) = some member) (empty : member.filled draft = false)
    (read : recordMembers members (count + 1) draft (part (name, bytes) ++ rest) = .ok last after) :
    ∃ middle behind, member.fill draft (bytes ++ rest) = .ok middle behind ∧
      recordMembers members count middle behind = .ok last after := by
  rw [part, List.append_assoc, recordMembers, Reader.bind_of_ok (reads_text short _)] at read
  simp only [asked, empty, Bool.false_eq_true, ↓reduceIte] at read
  exact Reader.bind_eq_ok_iff.mp read

/-- What each member keeps that fills an empty place, all of them keep. -/
theorem ensures_recordMembers {members : List (Member σ)} (keeps : σ → Prop)
    (each : ∀ member ∈ members, ∀ draft, member.filled draft = false → keeps draft →
      Reader.Ensures (member.fill draft) keeps) (count : Nat) {draft : σ} (held : keeps draft) :
    Reader.Ensures (recordMembers members count draft) keeps := by
  induction count generalizing draft with
  | zero => exact Reader.ensures_pure held
  | succ count ih =>
    refine Reader.ensures_bind fun name => ?_
    split
    case h_1 => exact Reader.ensures_throw _
    case h_2 member asked =>
      split
      case isTrue => exact Reader.ensures_throw _
      case isFalse empty =>
        have fill := each member (List.mem_of_find?_eq_some asked) draft (by simpa using empty) held
        exact fill.bind fun filled kept => ih kept

end Pack
end Signet
