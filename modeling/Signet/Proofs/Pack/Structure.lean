import Signet.Proofs.Pack.Scalar

/-! Lists, maps and records in packed form, as they are written and read back. -/

namespace Signet.Pack

variable {α σ : Type}

/-- A written list that is read back: if its items are of one length, the reader takes sizes of four
bytes and more for greater than they are. -/
def Tame (items : List Bytes) : Prop :=
  (∀ item ∈ items, ∀ other ∈ items, item.length = other.length) → items.flatten.length < 65533

theorem length_le_flatten {parts : List Bytes} (solid : ∀ part ∈ parts, 0 < part.length) :
    parts.length ≤ parts.flatten.length := by
  induction parts with
  | nil => exact Nat.le_refl _
  | cons part parts ih =>
    have first := solid part (List.mem_cons_self ..)
    have others := ih fun other member => solid other (List.mem_cons_of_mem _ member)
    rw [List.flatten_cons, List.length_append, List.length_cons]
    omega

theorem length_starts (start : Nat) (parts : List Bytes) :
    (Print.starts start parts).length = parts.length := by
  induction parts generalizing start with
  | nil => rfl
  | cons part parts ih => rw [Print.starts, List.length_cons, ih, List.length_cons]

theorem length_flatMap_littleEndian (width : Nat) (table : List (Bytes × Nat)) :
    (table.flatMap fun entry => littleEndian width entry.2).length = table.length * width := by
  induction table with
  | nil => simp
  | cons entry table ih =>
    rw [List.flatMap_cons, List.length_append, length_littleEndian, ih, List.length_cons,
      Nat.succ_mul, Nat.add_comm]

/-- What stands behind the lead byte of parts with a table. -/
def Indexed (lead : UInt8) (parts : List Bytes) (bytes : Bytes) : Prop :=
  ∃ index width size table, index < 4 ∧ widths[index]? = some width ∧ 1 + 2 * width ≤ size ∧
    size < capacity width ∧ parts.length < capacity width ∧
    table.length = parts.length * width ∧
    bytes = (lead + UInt8.ofNat index) :: (littleEndian width size ++
      (littleEndian width parts.length ++ (parts.flatten ++ table)))

/-- The width that is chosen, which has a place among the four. -/
theorem chosen_width (fits : Nat → Bool) : ∃ index width, (widths.find? fits).getD 8 = width ∧
    index < 4 ∧ widths[index]? = some width ∧ widths.idxOf width = index ∧ 0 < width ∧
    width ≤ 8 ∧ (fits width = true ∨ width = 8) := by
  have member : (widths.find? fits).getD 8 ∈ widths ∧
      (fits ((widths.find? fits).getD 8) = true ∨ (widths.find? fits).getD 8 = 8) := by
    cases found : widths.find? fits with
    | none => exact ⟨by decide, .inr rfl⟩
    | some width => exact ⟨List.mem_of_find?_eq_some found, .inl (List.find?_some found)⟩
  generalize (widths.find? fits).getD 8 = width at member
  obtain ⟨named, fitting⟩ := member
  have four : width = 1 ∨ width = 2 ∨ width = 4 ∨ width = 8 := by simpa [widths] using named
  rcases four with rfl | rfl | rfl | rfl
  · exact ⟨0, 1, rfl, by decide, rfl, by decide, by decide, by decide, fitting⟩
  · exact ⟨1, 2, rfl, by decide, rfl, by decide, by decide, by decide, fitting⟩
  · exact ⟨2, 4, rfl, by decide, rfl, by decide, by decide, by decide, fitting⟩
  · exact ⟨3, 8, rfl, by decide, rfl, by decide, by decide, by decide, fitting⟩

section

variable (lead : UInt8) {parts : List Bytes} {arrange : List (Bytes × Nat) → List (Bytes × Nat)}
  (keeps : ∀ table, table.length = parts.length → (arrange table).length = parts.length)
include keeps

/-- Parts are written with a table of numbers of one width, and so is what tells their size. -/
theorem indexed_eq : ∃ index width table, index < 4 ∧ widths[index]? = some width ∧
    0 < width ∧ width ≤ 8 ∧ table.length = parts.length * width ∧
    (1 + 2 * width + parts.flatten.length + parts.length * width < capacity width ∨ width = 8) ∧
    Print.indexed lead parts arrange = (lead + UInt8.ofNat index) ::
      (littleEndian width (1 + 2 * width + parts.flatten.length + parts.length * width) ++
        (littleEndian width parts.length ++ (parts.flatten ++ table))) := by
  let fits := fun width => decide
    (1 + 2 * width + parts.flatten.length + parts.length * width < capacity width)
  obtain ⟨index, width, chosen, inside, found, place, positive, narrow, fitting⟩ :=
    chosen_width fits
  have zipped : (parts.zip (Print.starts (1 + 2 * width) parts)).length = parts.length := by
    rw [List.length_zip, length_starts, Nat.min_self]
  have table := length_flatMap_littleEndian width
    (arrange (parts.zip (Print.starts (1 + 2 * width) parts)))
  rw [keeps _ zipped] at table
  refine ⟨index, width, _, inside, found, positive, narrow, table,
    fitting.imp_left of_decide_eq_true, ?_⟩
  rw [← place, ← chosen]
  simp [Print.indexed, fits]

theorem length_indexed_le :
    (Print.indexed lead parts arrange).length ≤ 17 + parts.flatten.length + 8 * parts.length := by
  obtain ⟨index, width, table, -, -, -, narrow, long, -, same⟩ := indexed_eq lead keeps
  have most : parts.length * width ≤ parts.length * 8 := Nat.mul_le_mul_left _ narrow
  rw [same]
  simp only [List.length_cons, List.length_append, length_littleEndian, long]
  omega

theorem indexed_of_short (short : (Print.indexed lead parts arrange).length < capacity 8) :
    Indexed lead parts (Print.indexed lead parts arrange) := by
  obtain ⟨index, width, table, inside, found, positive, -, long, fitting, same⟩ :=
    indexed_eq lead keeps
  have size : 1 + 2 * width + parts.flatten.length + parts.length * width < capacity width := by
    rcases fitting with fitting | rfl
    · exact fitting
    · rw [same] at short
      simp only [List.length_cons, List.length_append, length_littleEndian, long] at short
      omega
  have count : parts.length ≤ parts.length * width := Nat.le_mul_of_pos_right _ positive
  exact ⟨index, width, _, _, inside, found, by omega, size, by omega, long, same⟩

end

theorem length_flatten_le_indexed (lead : UInt8) (parts : List Bytes)
    (arrange : List (Bytes × Nat) → List (Bytes × Nat)) :
    parts.flatten.length ≤ (Print.indexed lead parts arrange).length := by
  simp only [Print.indexed, List.length_append]
  omega

theorem length_le_even (body : Bytes) : body.length ≤ (Print.even body).length := by
  unfold Print.even
  split
  · simp only [List.length_append]
    omega
  · split
    all_goals
      simp only [List.length_append]
      omega

theorem length_even_le (body : Bytes) : (Print.even body).length ≤ 17 + body.length := by
  unfold Print.even
  split
  · simp only [List.length_append, List.length_cons, length_littleEndian]
    omega
  · split
    all_goals
      simp only [List.length_append, List.length_cons, length_littleEndian]
      omega

theorem length_flatten_le {items : List Bytes} {bound : Nat}
    (each : ∀ item ∈ items, item.length ≤ bound) :
    items.flatten.length ≤ bound * items.length := by
  induction items with
  | nil => simp
  | cons item items ih =>
    have first := each item (List.mem_cons_self ..)
    have others := ih fun other member => each other (List.mem_cons_of_mem _ member)
    rw [List.flatten_cons, List.length_append, List.length_cons, Nat.mul_succ]
    omega

theorem length_list_le (items : List Bytes) :
    (Print.list items).length ≤ 17 + items.flatten.length + 8 * items.length := by
  cases items with
  | nil => simp [Print.list]
  | cons first others =>
    unfold Print.list
    dsimp only
    split
    · have most := length_even_le (first :: others).flatten
      omega
    · exact length_indexed_le _ fun _ same => same

/-- No item is longer than the list. -/
theorem length_item_le {item : Bytes} {items : List Bytes} (member : item ∈ items) :
    item.length ≤ (Print.list items).length := by
  have inside := (List.sublist_flatten_of_mem member).length_le
  cases items with
  | nil => cases member
  | cons first others =>
    refine Nat.le_trans inside ?_
    unfold Print.list
    dsimp only
    split
    · exact length_le_even _
    · exact length_flatten_le_indexed ..

theorem items_flatten {item : Reader Fault α} {write : α → Bytes} {values : List α}
    (each : ∀ value ∈ values, Reads item (write value) value) :
    Reads (items item values.length) (values.map write).flatten values := by
  induction values with
  | nil => exact fun rest => rfl
  | cons value values ih =>
    have first := each value (List.mem_cons_self ..)
    have others := ih fun other member => each other (List.mem_cons_of_mem _ member)
    exact first.append (others.bind fun _ => rfl)

theorem skipZeros_solid {bytes : Bytes} (solid : Solid bytes) (rest : Bytes) :
    skipZeros (bytes ++ rest) = .ok () (bytes ++ rest) := by
  obtain ⟨byte, others, rfl, nonzero⟩ := solid
  simp [skipZeros, Reader.skipWhile, bind, EStateM.bind, nonzero, lead_cons, pure, EStateM.pure]

theorem behind_of_le {size count : Nat} (covers : count ≤ size) (input : Bytes) :
    behind size count input = .ok (size - count) input := by
  rw [behind, if_pos covers]
  rfl

theorem length_flatten_of_uniform {parts : List Bytes} {length : Nat}
    (uniform : ∀ part ∈ parts, part.length = length) :
    parts.flatten.length = parts.length * length := by
  induction parts with
  | nil => simp
  | cons part parts ih =>
    have first := uniform part (List.mem_cons_self ..)
    have others := ih fun other member => uniform other (List.mem_cons_of_mem _ member)
    rw [List.flatten_cons, List.length_append, first, others, List.length_cons, Nat.succ_mul,
      Nat.add_comm]

theorem width?_indexed {index : Nat} (inside : index < 4) :
    width? 0x02 (0x06 + UInt8.ofNat index) = none ∧
      width? 0x06 (0x06 + UInt8.ofNat index) = widths[index]? ∧
      width? 0x0b (0x0b + UInt8.ofNat index) = widths[index]? ∧
      (0x06 + UInt8.ofNat index ≠ 0x01 ∧ 0x0b + UInt8.ofNat index ≠ 0x0a) := by
  match index, inside with
  | 0, _ => decide
  | 1, _ => decide
  | 2, _ => decide
  | 3, _ => decide

/-- A list without a table is read as its size tells. -/
theorem list_of_sized {item : Reader Fault α} {byte : UInt8} {width size : Nat} {body : Bytes}
    (other : byte ≠ 0x01) (kind : width? 0x02 byte = some width) (fits : size < capacity width)
    (covers : 1 + width ≤ size) (solid : Solid body) (rest : Bytes) :
    list item (byte :: littleEndian width size ++ body ++ rest) =
      evenItems item (size - (1 + width)) (body ++ rest) := by
  rw [List.append_assoc, List.cons_append, list, Reader.bind_of_ok (lead_cons _ _), if_neg other]
  simp only [kind]
  rw [Reader.bind_of_ok (Reader.skip_cons _ _),
    Reader.bind_of_ok (sized_littleEndian fits .malformed _),
    Reader.bind_of_ok (behind_of_le covers _), Reader.bind_of_ok (skipZeros_solid solid rest)]

theorem list_of_even {item : Reader Fault α} {byte : UInt8} {width : Nat} {body : Bytes}
    (other : byte ≠ 0x01) (kind : width? 0x02 byte = some width)
    (size : body.length + 1 + width < capacity width) (solid : Solid body) (rest : Bytes) :
    list item (byte :: littleEndian width (body.length + 1 + width) ++ body ++ rest) =
      evenItems item body.length (body ++ rest) := by
  have left : body.length + 1 + width - (1 + width) = body.length := by omega
  rw [list_of_sized other kind size (by omega) solid rest, left]

section

variable {item : Reader Fault α} {bytes : Bytes} {first : α} (reads : Reads item bytes first)
include reads

/-- How many items stand behind the first one is told by its length. -/
theorem evenItems_of_reads {size : Nat} (positive : 0 < bytes.length)
    (inside : bytes.length ≤ size) (rest : Bytes) :
    evenItems item size (bytes ++ rest) =
      (do return first :: (← items item (min (size / bytes.length - 1) (rest.length + 1))) :
        Reader Fault (List α)) rest := by
  have taken : (bytes ++ rest).length - rest.length = bytes.length := by
    rw [List.length_append, Nat.add_sub_cancel]
  simp only [evenItems, reads rest, taken, positive, inside, and_self, ↓reduceIte, bind,
    EStateM.bind]
  cases items item _ rest <;> rfl

/-- There is no going on behind a first item that is longer than the size of the list leaves. -/
theorem evenItems_of_overlong {size : Nat} (beyond : size < bytes.length) (rest : Bytes) :
    evenItems item size (bytes ++ rest) = .error .abort rest := by
  have taken : (bytes ++ rest).length - rest.length = bytes.length := by
    rw [List.length_append, Nat.add_sub_cancel]
  simp only [evenItems, reads rest, taken, Nat.not_le.mpr beyond, and_false, ↓reduceIte]

end

section

variable {item : Reader Fault α} {write : α → Bytes} {values : List α}
  (solid : ∀ value ∈ values, Solid (write value))
include solid

theorem length_le_written (rest : Bytes) :
    values.length ≤ ((values.map write).flatten ++ rest).length := by
  have positive : ∀ part ∈ values.map write, 0 < part.length := by
    intro part member
    obtain ⟨value, inside, rfl⟩ := List.mem_map.mp member
    exact (solid value inside).length_pos
  have long := length_le_flatten positive
  rw [List.length_map] at long
  rw [List.length_append]
  omega

theorem solid_flatten (some : values ≠ []) : Solid (values.map write).flatten := by
  cases values with
  | nil => exact absurd rfl some
  | cons first others =>
    obtain ⟨byte, rest, same, nonzero⟩ := solid first (List.mem_cons_self ..)
    exact ⟨byte, rest ++ (others.map write).flatten, by simp [same], nonzero⟩

variable (each : ∀ value ∈ values, Reads item (write value) value)
include each

/-- Items of one length are counted by the first of them. -/
theorem evenItems_flatten {length : Nat} (some : values ≠ [])
    (uniform : ∀ value ∈ values, (write value).length = length) (rest : Bytes) :
    evenItems item (values.map write).flatten.length ((values.map write).flatten ++ rest) =
      .ok values rest := by
  cases values with
  | nil => exact absurd rfl some
  | cons first others =>
    have long := uniform first (List.mem_cons_self ..)
    have positive : 0 < (write first).length := (solid first (List.mem_cons_self ..)).length_pos
    have same : ∀ part ∈ (first :: others).map write, part.length = (write first).length := by
      simpa [long] using uniform
    have whole := length_flatten_of_uniform same
    rw [List.length_map, List.length_cons] at whole
    have fewer := length_le_written
      (fun value member => solid value (List.mem_cons_of_mem _ member)) rest
    have behind := items_flatten (fun value member => each value (List.mem_cons_of_mem _ member))
      rest
    have inside : (write first).length ≤ (others.length + 1) * (write first).length :=
      Nat.le_mul_of_pos_left _ (Nat.succ_pos _)
    rw [whole, List.map_cons, List.flatten_cons, List.append_assoc,
      evenItems_of_reads (each first (List.mem_cons_self ..)) positive inside,
      Nat.mul_div_cancel _ positive, Nat.add_sub_cancel,
      Nat.min_eq_left (Nat.le_succ_of_le fewer), Reader.bind_of_ok behind]
    rfl

/-- Items of one length are read back if their size has one byte or two. -/
theorem reads_even {length : Nat} (some : values ≠ [])
    (uniform : ∀ value ∈ values, (write value).length = length)
    (small : (values.map write).flatten.length < 65533) :
    Reads (list item) (Print.even (values.map write).flatten) values := by
  have body := solid_flatten solid some
  intro rest
  have counted := evenItems_flatten solid each some uniform rest
  unfold Print.even
  split
  case isTrue short =>
    have size : (values.map write).flatten.length + 1 + 1 < capacity 1 := by
      simp only [capacity]
      omega
    exact (list_of_even (by decide) rfl size body rest).trans counted
  case isFalse long =>
    have size : (values.map write).flatten.length + 1 + 2 < capacity 2 := by
      simp only [capacity]
      omega
    exact (list_of_even (by decide) rfl size body rest).trans counted

/-- Items with a table are counted in front. -/
theorem reads_indexed (some : values ≠ []) {bytes : Bytes}
    (indexed : Indexed 0x06 (values.map write) bytes) : Reads (list item) bytes values := by
  obtain ⟨index, width, size, table, inside, found, -, sizeFits, countFits, long, rfl⟩ := indexed
  obtain ⟨noEven, kind, -, other, -⟩ := width?_indexed inside
  intro rest
  have body := solid_flatten solid some
  have fewer : values.length ≤ ((values.map write).flatten ++ (table ++ rest)).length :=
    length_le_written solid _
  have taken := take_append table rest .abort
  rw [long] at taken
  rw [List.cons_append, list, Reader.bind_of_ok (lead_cons _ _), if_neg other]
  simp only [noEven, kind, found, List.append_assoc]
  rw [Reader.bind_of_ok (Reader.skip_cons _ _),
    Reader.bind_of_ok (sized_littleEndian sizeFits .abort _),
    Reader.bind_of_ok (sized_littleEndian countFits .abort _),
    Reader.bind_of_ok (skipZeros_solid body _), Reader.bind_of_ok (Reader.left_eq _),
    List.length_map, Nat.min_eq_left (Nat.le_succ_of_le fewer),
    Reader.bind_of_ok (items_flatten each _)]
  rw [List.length_map] at taken
  rw [Reader.bind_of_ok taken]
  rfl

/-- A written list is read back if each of its items is. -/
theorem reads_list (tame : Tame (values.map write))
    (short : (Print.list (values.map write)).length < capacity 8) :
    Reads (list item) (Print.list (values.map write)) values := by
  cases values with
  | nil => exact fun rest => rfl
  | cons first others =>
    unfold Print.list at short ⊢
    simp only [List.map_cons] at short ⊢
    split at short
    case isTrue uniform =>
      rw [if_pos uniform]
      have same : ∀ value ∈ first :: others, (write value).length = (write first).length := by
        intro value member
        exact of_decide_eq_true (List.all_eq_true.mp uniform _ (List.mem_map_of_mem member))
      refine reads_even solid each (List.cons_ne_nil _ _) same (tame ?_)
      intro part member other inside
      obtain ⟨value, belongs, rfl⟩ := List.mem_map.mp member
      obtain ⟨another, too, rfl⟩ := List.mem_map.mp inside
      rw [same value belongs, same another too]
    case isFalse various =>
      rw [if_neg various]
      exact reads_indexed solid each (List.cons_ne_nil _ _)
        (indexed_of_short _ (fun _ same => same) short)

end

/-- A name and the written value that stands behind it. -/
def part (member : String × Bytes) : Bytes := Print.text member.1 ++ member.2

theorem part_pos (member : String × Bytes) : 0 < (part member).length := by
  have named := (solid_text member.1).length_pos
  rw [part, List.length_append]
  omega

/-- Whatever the order of its table, an object is made of its parts. -/
theorem object_cons (first : String × Bytes) (others : List (String × Bytes)) : ∃ arrange,
    (∀ table, table.length = ((first :: others).map part).length →
      (arrange table).length = ((first :: others).map part).length) ∧
    Print.object (first :: others) =
      Print.indexed 0x0b ((first :: others).map part) arrange := by
  refine ⟨fun table => ((((first :: others).map fun member => Print.text member.1).zip
    table).mergeSort fun one other => Print.notAfter one.1 other.1).map Prod.snd, ?_, ?_⟩
  · intro table same
    rw [List.length_map, List.length_mergeSort, List.length_zip, same, List.length_map,
      List.length_map, Nat.min_self]
  · simp only [Print.object]
    rfl

theorem length_object_le (named : List (String × Bytes)) : (Print.object named).length ≤
    17 + (named.map part).flatten.length + 8 * named.length := by
  cases named with
  | nil => simp [Print.object]
  | cons first others =>
    obtain ⟨arrange, keeps, same⟩ := object_cons first others
    have most := length_indexed_le 0x0b keeps
    rw [List.length_map] at most
    rw [same]
    exact most

theorem length_single_le (name : String) (value : Bytes) :
    (Print.object [(name, value)]).length ≤ 25 + (Print.text name).length + value.length := by
  have most := length_object_le [(name, value)]
  simp only [List.map_cons, List.map_nil, List.flatten_cons, List.flatten_nil, List.append_nil,
    part, List.length_append, List.length_singleton] at most
  omega

/-- No part is longer than the object. -/
theorem length_part_le {member : String × Bytes} {named : List (String × Bytes)}
    (inside : member ∈ named) : (part member).length ≤ (Print.object named).length := by
  cases named with
  | nil => cases inside
  | cons first others =>
    obtain ⟨arrange, -, same⟩ := object_cons first others
    have belongs : part member ∈ (first :: others).map part := List.mem_map_of_mem inside
    rw [same]
    exact Nat.le_trans (List.sublist_flatten_of_mem belongs).length_le
      (length_flatten_le_indexed ..)

theorem short_member (member : String × Bytes) {named : List (String × Bytes)} {bound : Nat}
    (inside : member ∈ named) (short : (Print.object named).length < bound) :
    (Print.text member.1).length < bound ∧ member.2.length < bound := by
  have whole := Nat.lt_of_le_of_lt (length_part_le inside) short
  rw [part, List.length_append] at whole
  exact ⟨Nat.lt_of_le_of_lt (Nat.le_add_right ..) whole,
    Nat.lt_of_le_of_lt (Nat.le_add_left ..) whole⟩

/-- An object is read part by part, as many as there are, and the table behind them is passed
over. -/
theorem enclosed_object (members : Nat → Reader Fault α) {named : List (String × Bytes)}
    (short : (Print.object named).length < capacity 8) :
    ∃ table : Bytes, ∀ rest, enclosed members (Print.object named ++ rest) =
      (do
        let value ← members named.length
        let _ ← take table.length .abort
        pure value : Reader Fault α) ((named.map part).flatten ++ (table ++ rest)) := by
  cases named with
  | nil =>
    refine ⟨[], fun rest => ?_⟩
    show members 0 rest = _
    simp only [bind, EStateM.bind]
    cases read : members 0 rest
    all_goals simp [read, take, pure, EStateM.pure]
  | cons first others =>
    obtain ⟨arrange, keeps, object⟩ := object_cons first others
    rw [object] at short ⊢
    obtain ⟨index, width, size, table, inside, found, covers, sizeFits, countFits, long, same⟩ :=
      indexed_of_short _ keeps short
    obtain ⟨-, -, kind, -, other⟩ := width?_indexed inside
    refine ⟨table, fun rest => ?_⟩
    rw [same, List.cons_append, enclosed, Reader.bind_of_ok (lead_cons _ _), if_neg other]
    simp only [kind, found, Option.some_or, List.append_assoc]
    rw [Reader.bind_of_ok (Reader.skip_cons _ _),
      Reader.bind_of_ok (sized_littleEndian sizeFits .malformed _),
      Reader.bind_of_ok (behind_of_le covers _),
      Reader.bind_of_ok (sized_littleEndian countFits .malformed _), long, List.length_map]

/-- A written object is read back if its parts are, as many as there are. -/
theorem reads_enclosed {members : Nat → Reader Fault α} {named : List (String × Bytes)} {value : α}
    (short : (Print.object named).length < capacity 8)
    (each : Reads (members named.length) (named.map part).flatten value) :
    Reads (enclosed members) (Print.object named) value := by
  obtain ⟨table, same⟩ := enclosed_object members short
  intro rest
  rw [same, Reader.bind_of_ok (each _), Reader.bind_of_ok (take_append table rest .abort)]
  rfl

/-- No object holds more members than it has bytes. -/
theorem bounded_eq (members : Nat → Reader Fault α) (named : List (String × Bytes)) (rest : Bytes) :
    (do members (min named.length ((← Reader.left) + 1)) : Reader Fault α)
      ((named.map part).flatten ++ rest) =
        members named.length ((named.map part).flatten ++ rest) := by
  have few : named.length ≤ ((named.map part).flatten ++ rest).length := by
    have solid : ∀ bytes ∈ named.map part, 0 < bytes.length := by
      intro bytes inside
      obtain ⟨member, -, rfl⟩ := List.mem_map.mp inside
      exact part_pos member
    have long := length_le_flatten solid
    rw [List.length_map] at long
    rw [List.length_append]
    omega
  rw [Reader.bind_of_ok (Reader.left_eq _), Nat.min_eq_left (Nat.le_succ_of_le few)]

theorem reads_bounded (members : Nat → Reader Fault α) {named : List (String × Bytes)} {value : α}
    (each : Reads (members named.length) (named.map part).flatten value) :
    Reads (do members (min named.length ((← Reader.left) + 1))) (named.map part).flatten value :=
  fun rest => (bounded_eq members named rest).trans (each rest)

/-- A written map is read back if each of its values is. -/
theorem reads_map {value : Reader Fault α} {write : α → Bytes} {entries : List (String × α)}
    (each : ∀ entry ∈ entries, Reads value (write entry.2) entry.2)
    (short : (Print.object (entries.map fun entry => (entry.1, write entry.2))).length <
      capacity 8) :
    Reads (map value) (Print.object (entries.map fun entry => (entry.1, write entry.2)))
      entries := by
  have named : (entries.map fun entry => (entry.1, write entry.2)).map part =
      entries.map fun entry => Print.text entry.1 ++ write entry.2 := by
    rw [List.map_map]
    rfl
  refine reads_enclosed short (reads_bounded _ ?_)
  rw [named, List.length_map]
  refine items_flatten fun entry inside => ?_
  have belongs : (entry.1, write entry.2) ∈ entries.map fun entry => (entry.1, write entry.2) :=
    List.mem_map_of_mem inside
  have bounds := short_member _ belongs short
  exact (reads_text bounds.1).append ((each entry inside).bind fun _ => rfl)

/-- The members fill a draft one after the other, each of them an empty place. -/
inductive Fills (members : List (Member σ)) : σ → List (String × Bytes) → σ → Prop where
  | done (draft : σ) : Fills members draft [] draft
  | next {draft middle last : σ} {name : String} {bytes : Bytes}
      {others : List (String × Bytes)} {member : Member σ}
      (asked : members.find? (·.name = name) = some member)
      (empty : member.filled draft = false) (reads : Reads (member.fill draft) bytes middle)
      (fills : Fills members middle others last) :
      Fills members draft ((name, bytes) :: others) last

theorem reads_members {members : List (Member σ)} {draft last : σ} {named : List (String × Bytes)}
    (fills : Fills members draft named last)
    (bounds : ∀ member ∈ named, (Print.text member.1).length < capacity 8) :
    Reads (recordMembers members named.length draft) (named.map part).flatten last := by
  induction fills with
  | done draft => exact fun rest => rfl
  | next asked empty reads fills ih =>
    have later := ih fun member inside => bounds member (List.mem_cons_of_mem _ inside)
    intro rest
    rw [List.map_cons, List.flatten_cons, part, List.append_assoc, List.append_assoc,
      List.length_cons, recordMembers,
      Reader.bind_of_ok (reads_text (bounds _ (List.mem_cons_self ..)) _)]
    simp only [asked, empty, Bool.false_eq_true, ↓reduceIte]
    rw [← List.append_assoc]
    exact reads.append later rest

/-- A written object is read as a record if its members fill the draft of one. -/
theorem reads_record {members : List (Member σ)} {draft : σ} (last : σ)
    {named : List (String × Bytes)} {finish : σ → Option α} {value : α}
    (fills : Fills members draft named last) (finished : finish last = some value)
    (short : (Print.object named).length < capacity 8) :
    Reads (record members draft finish) (Print.object named) value := by
  have each := reads_members fills fun member inside => (short_member member inside short).1
  have bounded := reads_bounded (fun count => recordMembers members count draft) each
  refine Reads.bind (reads_enclosed short bounded) fun rest => ?_
  simp only [finished]
  rfl

theorem decode_of_reads {reader : Reader Fault α} {bytes : Bytes} {value : α}
    (reads : Reads reader bytes value) : decode reader bytes = .ok value := by
  have whole := reads []
  rw [List.append_nil] at whole
  simp [decode, Reader.run, finished, bind, EStateM.bind, whole, Reader.peek, pure, EStateM.pure]

end Signet.Pack
