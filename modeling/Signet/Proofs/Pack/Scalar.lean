import Signet.Pack.Typed
import Signet.Proofs.Reader

/-! Texts and whole numbers in packed form, as they are written and read back. A packed value tells
its own length, so whatever follows it stays in the input. -/

namespace Signet.Pack

variable {α β : Type}

/-- The reader takes these bytes off the front, and answers this value. -/
def Reads (reader : Reader Fault α) (bytes : Bytes) (value : α) : Prop :=
  ∀ rest, reader (bytes ++ rest) = .ok value rest

theorem Reads.bind {first : Reader Fault α} {next : α → Reader Fault β} {bytes : Bytes}
    {value : α} {result : β} (reads : Reads first bytes value)
    (same : ∀ rest, next value rest = .ok result rest) : Reads (first >>= next) bytes result := by
  intro rest
  rw [Reader.bind_of_ok (reads rest), same]

theorem Reads.append {first : Reader Fault α} {next : α → Reader Fault β} {front back : Bytes}
    {value : α} {result : β} (reads : Reads first front value)
    (others : Reads (next value) back result) : Reads (first >>= next) (front ++ back) result := by
  intro rest
  rw [List.append_assoc, Reader.bind_of_ok (reads (back ++ rest)), others]

/-- It begins with a byte that names a kind. -/
def Solid (bytes : Bytes) : Prop := ∃ byte rest, bytes = byte :: rest ∧ byte ≠ 0

theorem Solid.length_pos {bytes : Bytes} (solid : Solid bytes) : 0 < bytes.length := by
  obtain ⟨byte, rest, rfl, -⟩ := solid
  exact Nat.zero_lt_succ _

theorem lead_cons (byte : UInt8) (rest : Bytes) : lead (byte :: rest) = .ok byte (byte :: rest) :=
  rfl

theorem take_append (bytes rest : Bytes) (absent : Fault) :
    take bytes.length absent (bytes ++ rest) = .ok bytes rest := by
  simp [take]

theorem sized_littleEndian {width number : Nat} (fits : number < capacity width) (absent : Fault)
    (rest : Bytes) : sized width absent (littleEndian width number ++ rest) = .ok number rest := by
  have taken := take_append (littleEndian width number) rest absent
  rw [length_littleEndian] at taken
  rw [sized, Reader.bind_of_ok taken, ofLittleEndian_littleEndian fits]
  rfl

theorem lt_capacity_byteWidth (number : Nat) : number < capacity (byteWidth number) := by
  induction number using byteWidth.induct with
  | case1 => simp [byteWidth, capacity]
  | case2 number nonzero ih =>
    rw [byteWidth, if_neg nonzero, capacity]
    omega

theorem byteWidth_le {width number : Nat} (fits : number < capacity width) :
    byteWidth number ≤ width := by
  induction width generalizing number with
  | zero =>
    have none : number = 0 := by simpa [capacity] using fits
    simp [none, byteWidth]
  | succ width ih =>
    rw [byteWidth]
    split
    · exact Nat.zero_le _
    · refine Nat.succ_le_succ (ih ?_)
      rw [capacity] at fits
      omega

theorem toNat_ofNat_of_lt {number : Nat} (small : number < 256) :
    (UInt8.ofNat number).toNat = number := by
  simp
  omega

/-- The part of a number that is written. -/
def kept (number : UInt64) : Nat := number.toNat % capacity 7

theorem kept_of_lt {number : UInt64} (small : number.toNat < capacity 7) :
    kept number = number.toNat :=
  Nat.mod_eq_of_lt small

theorem written_of_lt {number : UInt64} (small : number.toNat < capacity 7)
    (none : kept number = 0) : number = 0 :=
  UInt64.toNat_inj.mp ((kept_of_lt small).symm.trans none)

/-- A number from nought to nine is a byte of its own. -/
theorem reads_below_digit {number bound : Nat} (digit : number < 10) :
    Reads (below bound) [UInt8.ofNat (0x30 + number)] number := by
  intro rest
  have value := toNat_ofNat_of_lt (by omega : 0x30 + number < 256)
  have named : 0x30 ≤ UInt8.ofNat (0x30 + number) ∧ UInt8.ofNat (0x30 + number) ≤ 0x39 := by
    rw [UInt8.le_iff_toNat_le, UInt8.le_iff_toNat_le, value]
    exact ⟨Nat.le_add_right .., Nat.add_le_add_left (Nat.le_of_lt_succ digit) 0x30⟩
  rw [List.singleton_append, below, Reader.bind_of_ok (lead_cons _ _), if_pos named,
    Reader.bind_of_ok (Reader.skip_cons _ _), value, Nat.add_sub_cancel_left]
  rfl

/-- A number of one byte to seven bytes stands behind a byte that tells how many there are. -/
theorem reads_below_wide {width number bound : Nat} (narrow : width < 7)
    (fits : number < capacity (width + 1)) (small : number < bound) :
    Reads (below bound) (UInt8.ofNat (0x28 + width) :: littleEndian (width + 1) number) number := by
  intro rest
  have value := toNat_ofNat_of_lt (by omega : 0x28 + width < 256)
  have named : 0x28 ≤ UInt8.ofNat (0x28 + width) ∧ UInt8.ofNat (0x28 + width) ≤ 0x2f := by
    rw [UInt8.le_iff_toNat_le, UInt8.le_iff_toNat_le, value]
    exact ⟨Nat.le_add_right .., Nat.add_le_add_left (Nat.le_of_lt narrow) 0x28⟩
  have noDigit : ¬ (0x30 ≤ UInt8.ofNat (0x28 + width) ∧ UInt8.ofNat (0x28 + width) ≤ 0x39) := by
    rw [UInt8.le_iff_toNat_le, value, show (0x30 : UInt8).toNat = 48 from rfl]
    omega
  have length : 0x28 + width - 0x27 = width + 1 := by omega
  rw [List.cons_append, below, Reader.bind_of_ok (lead_cons _ _), if_neg noDigit, if_pos named,
    Reader.bind_of_ok (Reader.skip_cons _ _), value, length,
    Reader.bind_of_ok (sized_littleEndian fits .abort rest), if_pos small]
  rfl

/-- Only the low seven bytes of a number are written. If nothing is in them, though there is a number,
then nothing is written. -/
theorem unsigned_cases {number : UInt64} (written : kept number = 0 → number = 0) :
    (kept number < 10 ∧ Print.unsigned number = [UInt8.ofNat (0x30 + kept number)]) ∨
    ∃ width, width < 7 ∧ kept number < capacity (width + 1) ∧ Print.unsigned number =
      UInt8.ofNat (0x28 + width) :: littleEndian (width + 1) (kept number) := by
  by_cases digit : number.toNat < 10
  · have whole : kept number = number.toNat := Nat.mod_eq_of_lt (Nat.lt_trans digit (by decide))
    exact .inl ⟨whole ▸ digit, by rw [Print.unsigned, if_pos digit, whole]⟩
  · have fits : kept number < capacity 7 := Nat.mod_lt _ (by decide)
    have narrow := byteWidth_le fits
    have wide := lt_capacity_byteWidth (kept number)
    cases length : byteWidth (kept number) with
    | zero =>
      rw [length, capacity] at wide
      have none := written (Nat.lt_one_iff.mp wide)
      exact absurd (by simp [none]) digit
    | succ width =>
      rw [length] at narrow wide
      refine .inr ⟨width, narrow, wide, ?_⟩
      rw [kept] at length ⊢
      simp only [Print.unsigned, if_neg digit, length]

theorem length_unsigned_le {number : UInt64} (written : kept number = 0 → number = 0) :
    (Print.unsigned number).length ≤ 8 := by
  rcases unsigned_cases written with ⟨-, same⟩ | ⟨width, narrow, -, same⟩
  · simp [same]
  · rw [same, List.length_cons, length_littleEndian]
    omega

theorem reads_below {number : UInt64} {bound : Nat} (written : kept number = 0 → number = 0)
    (small : kept number < bound) :
    Reads (below bound) (Print.unsigned number) (kept number) := by
  rcases unsigned_cases written with ⟨digit, same⟩ | ⟨width, narrow, fits, same⟩
  · rw [same]
    exact reads_below_digit digit
  · rw [same]
    exact reads_below_wide narrow fits small

theorem reads_unsigned {number : UInt64} (written : kept number = 0 → number = 0) :
    Reads unsigned (Print.unsigned number) (UInt64.ofNat (kept number)) := by
  have small : kept number < UInt64.size :=
    Nat.lt_trans (Nat.mod_lt _ (by decide)) (by decide : capacity 7 < UInt64.size)
  exact (reads_below written small).bind fun _ => rfl

theorem toNat_byte_lt (value : UInt8) : value.toUInt64.toNat < capacity 7 :=
  Nat.lt_trans value.toNat_lt (by decide)

theorem kept_byte (value : UInt8) : kept value.toUInt64 = value.toNat :=
  kept_of_lt (toNat_byte_lt value)

theorem written_byte {value : UInt8} : kept value.toUInt64 = 0 → value.toUInt64 = 0 :=
  written_of_lt (toNat_byte_lt value)

theorem reads_byte (value : UInt8) : Reads byte (Print.unsigned value.toUInt64) value := by
  have small : kept value.toUInt64 < 256 := kept_byte value ▸ value.toNat_lt
  refine (reads_below written_byte small).bind fun rest => ?_
  rw [kept_byte, UInt8.ofNat_toNat]
  rfl

theorem reads_textBytes {value : String} {length : Nat} (same : length = (Text.utf8 value).length) :
    Reads (textBytes length) (Text.utf8 value) value := by
  intro rest
  rw [textBytes, same, Reader.bind_of_ok (take_append _ rest .abort), Text.ofUtf8?_utf8]
  rfl

theorem length_utf8_le (value : String) : (Text.utf8 value).length ≤ (Print.text value).length := by
  unfold Print.text
  dsimp only
  split
  · exact Nat.le_succ _
  · rw [List.length_append]
    exact Nat.le_add_left ..

theorem length_text_le (value : String) :
    (Print.text value).length ≤ 9 + (Text.utf8 value).length := by
  unfold Print.text
  dsimp only
  split
  all_goals
    simp only [List.length_append, List.length_cons, length_littleEndian]
    omega

theorem reads_text {value : String} (short : (Print.text value).length < capacity 8) :
    Reads text (Print.text value) value := by
  have fits := Nat.lt_of_le_of_lt (length_utf8_le value) short
  intro rest
  unfold Print.text
  dsimp only
  split
  case isTrue short =>
    have named := toNat_ofNat_of_lt (by omega : 0x40 + (Text.utf8 value).length < 256)
    have kind : 0x40 ≤ UInt8.ofNat (0x40 + (Text.utf8 value).length) ∧
        UInt8.ofNat (0x40 + (Text.utf8 value).length) ≤ 0xbe := by
      rw [UInt8.le_iff_toNat_le, UInt8.le_iff_toNat_le, named]
      exact ⟨Nat.le_add_right .., Nat.add_le_add_left short 0x40⟩
    rw [List.cons_append, text, Reader.bind_of_ok (lead_cons _ _), if_pos kind,
      Reader.bind_of_ok (Reader.skip_cons _ _), named, Nat.add_sub_cancel_left]
    exact reads_textBytes rfl rest
  case isFalse long =>
    have kind : ¬ ((0x40 : UInt8) ≤ 0xbf ∧ (0xbf : UInt8) ≤ 0xbe) := by decide
    rw [List.append_assoc, List.cons_append, text, Reader.bind_of_ok (lead_cons _ _), if_neg kind,
      if_pos rfl, Reader.bind_of_ok (Reader.skip_cons _ _),
      Reader.bind_of_ok (sized_littleEndian fits .abort _)]
    exact reads_textBytes rfl rest

theorem ofNat_ne_zero {number : Nat} (small : number < 256) (some : 0 < number) :
    UInt8.ofNat number ≠ 0 := by
  intro same
  have value := toNat_ofNat_of_lt small
  rw [same] at value
  exact Nat.ne_of_lt some value

theorem solid_text (value : String) : Solid (Print.text value) := by
  unfold Print.text
  dsimp only
  split
  case isTrue short => exact ⟨_, _, rfl, ofNat_ne_zero (by omega) (by omega)⟩
  case isFalse long => exact ⟨_, _, rfl, by decide⟩

theorem solid_unsigned {number : UInt64} (written : kept number = 0 → number = 0) :
    Solid (Print.unsigned number) := by
  rcases unsigned_cases written with ⟨digit, same⟩ | ⟨width, narrow, fits, same⟩
  · exact ⟨_, _, same, ofNat_ne_zero (by omega) (by omega)⟩
  · exact ⟨_, _, same, ofNat_ne_zero (by omega) (by omega)⟩

end Signet.Pack
