import Mathlib.Data.List.Forall2
import Signet.Proofs.Json.Number
import Signet.Proofs.Permission
import Signet.Proofs.Token.Payload

/-! Sets as words of 64 bits, on the wire and off it. Bits that are given are cut to the usable
ones; a number that is read is not, and counts only if no bit of it would be lost. -/

namespace Signet.Permission

variable {permission first second : Permission} {number : Int}
  {result other : Except Json.Fault Permission}

/-- The set as a word. -/
def word (permission : Permission) : UInt64 := UInt64.ofNat permission.toNat

/-- The word of all usable bits. -/
def usable : UInt64 := UInt64.ofNat mask

theorem toNat_le (permission : Permission) : permission.toNat ≤ mask :=
  Nat.le_of_lt_succ permission.bits.isLt

theorem toNat_injective (same : first.toNat = second.toNat) : first = second := by
  obtain ⟨bits⟩ := first
  obtain ⟨others⟩ := second
  exact congrArg Permission.mk (BitVec.eq_of_toNat_eq same)

@[simp] theorem toNat_word (permission : Permission) : permission.word.toNat = permission.toNat :=
  UInt64.toNat_ofNat_of_lt' permission.toNat_lt

/-- Of a number in range no bit is cut. -/
theorem toNat_ofBits_of_le {bits : UInt64} (small : bits.toNat ≤ mask) :
    (ofBits bits).toNat = bits.toNat := by
  rw [mask] at small
  show (bits.toBitVec.setWidth 53).toNat = _
  rw [BitVec.toNat_setWidth, UInt64.toNat_toBitVec]
  omega

theorem ofBits_word (permission : Permission) : ofBits permission.word = permission := by
  apply toNat_injective
  have small : permission.word.toNat ≤ mask := (toNat_word permission).symm ▸ permission.toNat_le
  rw [toNat_ofBits_of_le small, toNat_word]

theorem toBitVec_word (permission : Permission) :
    permission.word.toBitVec = permission.bits.setWidth 64 := by
  apply BitVec.eq_of_toNat_eq
  have small := permission.bits.isLt
  rw [UInt64.toNat_toBitVec, toNat_word, BitVec.toNat_setWidth, toNat]
  omega

/-- Bits that are given are cut to the usable ones. -/
theorem word_ofBits (bits : UInt64) : (ofBits bits).word = bits &&& usable := by
  apply UInt64.toNat_inj.mp
  have whole : usable.toNat = 2 ^ 53 - 1 := rfl
  rw [toNat_word, UInt64.toNat_and, whole, Nat.and_two_pow_sub_one_eq_mod]
  exact BitVec.toNat_setWidth 53 bits.toBitVec

theorem word_or (first second : Permission) :
    (first ||| second).word = first.word ||| second.word := by
  apply UInt64.toBitVec_inj.mp
  rw [UInt64.toBitVec_or, toBitVec_word, toBitVec_word, toBitVec_word]
  exact BitVec.setWidth_or

theorem ofBits_or (bits others : UInt64) :
    ofBits (bits ||| others) = ofBits bits ||| ofBits others := by
  refine congrArg Permission.mk ?_
  rw [UInt64.toBitVec_or]
  exact BitVec.setWidth_or

/-- No bit of a set stands where none is usable. -/
theorem word_and_complement (permission : Permission) : permission.word &&& ~~~usable = 0 := by
  have cut : permission.word = permission.word &&& usable := by
    rw [← word_ofBits, ofBits_word]
  rw [cut, UInt64.and_assoc, UInt64.and_not_self, UInt64.and_zero]

/-- What comes of a number that is read: the set of just that number, or an error that tells the
number. -/
inductive Taken (number : Int) : Except Json.Fault Permission → Prop where
  | exact {permission : Permission} (same : (permission.toNat : Int) = number) :
      Taken number (.ok permission)
  | refused (outside : number < 0 ∨ mask < number) :
      Taken number (.error (.wrongValue (.integer number) kind))

theorem Taken.unique (one : Taken number result) (two : Taken number other) : result = other := by
  have inside : ∀ permission : Permission, (permission.toNat : Int) = number →
      ¬ (number < 0 ∨ mask < number) := by
    intro permission same outside
    have small := permission.toNat_le
    omega
  cases one with
  | exact same =>
    cases two with
    | exact also =>
      exact congrArg Except.ok (toNat_injective (Int.ofNat.inj (same.trans also.symm)))
    | refused outside => exact absurd outside (inside _ same)
  | refused outside =>
    cases two with
    | exact also => exact absurd outside (inside _ also)
    | refused => rfl

theorem Taken.exists_ok_iff (taken : Taken number result) :
    (∃ permission, result = .ok permission) ↔ 0 ≤ number ∧ number ≤ mask := by
  cases taken with
  | @exact permission same =>
    have small := permission.toNat_le
    constructor
    · intro _
      omega
    · exact fun _ => ⟨permission, rfl⟩
  | refused outside =>
    constructor
    · rintro ⟨permission, accepted⟩
      cases accepted
    · intro inside
      omega

theorem taken_ofUnsigned (value : UInt64) : Taken value.toNat (ofUnsigned value) := by
  unfold ofUnsigned
  split
  case isTrue small => exact .exact (congrArg Int.ofNat (toNat_ofBits_of_le small))
  case isFalse large => exact .refused (.inr (Int.ofNat_lt.mpr (Nat.lt_of_not_le large)))

theorem taken_ofSigned (value : Int64) : Taken value.toInt (ofSigned value) := by
  unfold ofSigned
  split
  case isTrue positive =>
    have nonnegative : 0 ≤ value.toInt := Int64.le_iff_toInt_le.mp positive
    have same : (value.toUInt64.toNat : Int) = value.toInt := by
      rw [Int64.toNat_toUInt64_of_le positive]
      exact Int.toNat_of_nonneg nonnegative
    exact same ▸ taken_ofUnsigned value.toUInt64
  case isFalse negative =>
    exact .refused (.inl (Int64.lt_iff_toInt_lt.mp (Int64.not_le.mp negative)))

theorem ofUnsigned_eq_ok_iff {value : UInt64} :
    ofUnsigned value = .ok permission ↔ value = permission.word := by
  constructor
  · intro accepted
    have taken := taken_ofUnsigned value
    rw [accepted] at taken
    cases taken with
    | exact same =>
      apply UInt64.toNat_inj.mp
      rw [toNat_word]
      exact (Int.ofNat.inj same).symm
  · rintro rfl
    exact permission.ofNumber_toNat

/-- Of all numbers in a text, only whole ones without sign are sets. -/
theorem exists_of_ofNumber {number : Json.Number} (accepted : ofNumber number = .ok permission) :
    ∃ value, number = .unsigned value := by
  cases number with
  | unsigned value => exact ⟨value, rfl⟩
  | negative value => cases accepted
  | float bits => cases accepted

/-- A text that holds a set holds the digits of its number, and nothing else but blanks. -/
theorem of_decode_read {text : Bytes} (decoded : Json.decode read text = .ok permission) :
    ∃ front back, Json.Blank front ∧ Json.Blank back ∧
      text = front ++ permission.json ++ back := by
  obtain ⟨front, value, back, blank, hollow, accepted, rfl⟩ :=
    Json.of_decode_numeric (fun _ _ => exists_of_ofNumber) decoded
  obtain rfl := ofUnsigned_eq_ok_iff.mp accepted
  refine ⟨front, back, blank, hollow, ?_⟩
  rw [json, Json.Print.natural, toNat_word]

/-- Names come to the union, word by word, of the sets that they stand for. -/
theorem Table.word_of_resolveFrom {table : Table} {privileged : Bool} {names : List String}
    {start : Permission} (resolved : table.resolveFrom privileged start names = .ok permission) :
    ∃ sets, List.Forall₂ (table.Stands privileged) names sets ∧
      permission.word =
        sets.foldl (fun word (set : Permission) => word ||| set.word) start.word := by
  induction names generalizing start with
  | nil =>
    cases resolved
    exact ⟨[], .nil, rfl⟩
  | cons name names ih =>
    rw [resolveFrom] at resolved
    split at resolved
    case h_2 => cases resolved
    case h_1 found entry =>
      obtain ⟨sets, each, whole⟩ := ih resolved
      refine ⟨found :: sets, .cons (find?_eq_some_iff.mp entry) each, ?_⟩
      rw [whole, word_or, List.foldl_cons]

/-- However a set comes about, its word has usable bits only: those that are given are cut to them,
unions and names add up word by word, and a number that is read, with or without a sign, is the set
of just that number or is refused. In a text a set stands as the digits of its number. -/
theorem words_exact :
    (∀ permission : Permission, permission.word &&& ~~~usable = 0 ∧
      ofBits permission.word = permission) ∧
    (∀ bits, (ofBits bits).word = bits &&& usable ∧ ofBits (ofBits bits).word = ofBits bits) ∧
    (∀ bits others, ofBits (bits ||| others) = ofBits bits ||| ofBits others) ∧
    (∀ first second : Permission, (first ||| second).word = first.word ||| second.word) ∧
    (∀ (table : Table) names privileged permission,
      table.resolve names privileged = .ok permission →
        ∃ sets, List.Forall₂ (table.Stands privileged) names sets ∧
          permission.word = sets.foldl (fun word (set : Permission) => word ||| set.word) 0) ∧
    (∀ permission, Json.decode read permission.json = .ok permission) ∧
    (∀ text permission, Json.decode read text = .ok permission → ∃ front back,
      Json.Blank front ∧ Json.Blank back ∧ text = front ++ permission.json ++ back) ∧
    (∀ value : UInt64, Taken value.toNat (ofUnsigned value) ∧
      ((∃ permission, ofUnsigned value = .ok permission) ↔ value.toNat ≤ mask)) ∧
    (∀ value : Int64, Taken value.toInt (ofSigned value) ∧
      ((∃ permission, ofSigned value = .ok permission) ↔
        0 ≤ value.toInt ∧ value.toInt ≤ mask)) ∧
    ∀ (value : UInt64) (signed : Int64), signed.toInt = value.toNat →
      ofSigned signed = ofUnsigned value := by
  refine ⟨fun permission => ⟨permission.word_and_complement, permission.ofBits_word⟩,
    fun bits => ⟨word_ofBits bits, ofBits_word _⟩, ofBits_or, word_or, ?_,
    fun permission => Json.decode_of_reads permission.reads_json, fun _ _ => of_decode_read,
    ?_, ?_, ?_⟩
  · intro table names privileged permission resolved
    exact Table.word_of_resolveFrom resolved
  · intro value
    have taken := taken_ofUnsigned value
    refine ⟨taken, taken.exists_ok_iff.trans ⟨?_, ?_⟩⟩
    · exact fun inside => Int.ofNat_le.mp inside.2
    · exact fun small => ⟨Int.natCast_nonneg _, Int.ofNat_le.mpr small⟩
  · intro value
    exact ⟨taken_ofSigned value, (taken_ofSigned value).exists_ok_iff⟩
  · intro value signed same
    exact (taken_ofSigned signed).unique (same ▸ taken_ofUnsigned value)

/-- The greatest set is accepted on either path, one more is refused, and so is less than none. -/
theorem words_exact_at_bounds :
    (∃ permission, ofUnsigned 9007199254740991 = .ok permission) ∧
      ofSigned 9007199254740991 = ofUnsigned 9007199254740991 ∧
      (¬ ∃ permission, ofUnsigned 9007199254740992 = .ok permission) ∧
      ¬ ∃ permission, ofSigned (-1) = .ok permission := by
  obtain ⟨-, -, -, -, -, -, -, unsigned, signed, agree⟩ := words_exact
  refine ⟨(unsigned _).2.mpr (by decide), agree _ _ (by decide), ?_, ?_⟩
  · rw [(unsigned _).2]
    decide
  · rw [(signed _).2]
    decide

end Signet.Permission
