import Signet.Decimal.Parse

/-! Which texts are numerals, and of what. The parser strips a sign and folds over the rest; the
grammar here does neither, and the parser reads just the numerals of the grammar. -/

namespace Signet.Decimal

/-- Digits, at least one, and the number that they denote; zeros may come first. -/
inductive Denotes : Bytes → Nat → Prop where
  | one {byte : UInt8} (digit : isDigit byte = true) : Denotes [byte] (digitValue byte)
  | more {run : Bytes} {number : Nat} {byte : UInt8} (front : Denotes run number)
      (digit : isDigit byte = true) : Denotes (run ++ [byte]) (number * 10 + digitValue byte)

/-- A numeral of 64 bits: digits, perhaps behind one plus sign. -/
inductive Numeral (text : String) (number : UInt64) : Prop where
  | plain (digits : Denotes (Text.utf8 text) number.toNat)
  | signed {run : Bytes} (signed : Text.utf8 text = ascii '+' :: run)
      (digits : Denotes run number.toNat)

variable {run rest : Bytes} {number other : Nat}

/-- Further digits are read one after the other. -/
theorem Denotes.append (front : Denotes run number) (digits : rest.all isDigit = true) :
    Denotes (run ++ rest) (value number rest) := by
  induction rest generalizing run number with
  | nil => rwa [List.append_nil]
  | cons byte rest ih =>
    simp only [List.all_cons, Bool.and_eq_true] at digits
    rw [List.append_cons]
    exact ih (front.more digits.1) digits.2

theorem denotes_iff :
    Denotes run number ↔ run ≠ [] ∧ run.all isDigit = true ∧ value 0 run = number := by
  constructor
  · intro denotes
    induction denotes with
    | one digit => simp [digit, value]
    | more front digit ih =>
      obtain ⟨-, digits, same⟩ := ih
      refine ⟨by simp, by simp [digits, digit], ?_⟩
      rw [← same, value, List.foldl_append]
      rfl
  · rintro ⟨some, digits, rfl⟩
    cases run with
    | nil => exact absurd rfl some
    | cons byte rest =>
      simp only [List.all_cons, Bool.and_eq_true] at digits
      have denotes := (Denotes.one digits.1).append digits.2
      rwa [← Nat.zero_add (digitValue byte), ← Nat.zero_mul 10] at denotes

theorem Denotes.unique (one : Denotes run number) (two : Denotes run other) : number = other :=
  (denotes_iff.mp one).2.2.symm.trans (denotes_iff.mp two).2.2

/-- Digits do not begin with a sign. -/
theorem Denotes.numeralDigits_eq (denotes : Denotes run number) : numeralDigits run = run := by
  obtain ⟨some, digits, -⟩ := denotes_iff.mp denotes
  cases run with
  | nil => rfl
  | cons byte rest =>
    simp only [List.all_cons, Bool.and_eq_true] at digits
    refine if_neg ?_
    rintro rfl
    exact absurd digits.1 (by decide)

/-- What is left of a numeral without its sign denotes its number. -/
theorem numeral_iff {text : String} {number : UInt64} :
    Numeral text number ↔ Denotes (numeralDigits (Text.utf8 text)) number.toNat := by
  constructor
  · rintro (digits | ⟨signed, digits⟩)
    · rwa [digits.numeralDigits_eq]
    · rw [signed]
      exact digits
  · intro digits
    cases read : Text.utf8 text with
    | nil =>
      rw [read] at digits
      exact absurd rfl (denotes_iff.mp digits).1
    | cons byte rest =>
      rw [read, numeralDigits] at digits
      split at digits
      case isTrue sign =>
        subst sign
        exact .signed read digits
      case isFalse => exact .plain (read ▸ digits)

/-- Texts that are read are numerals of the number that is read, and the others are not. -/
theorem parse?_eq_some_iff {text : String} {number : UInt64} :
    parse? text = some number ↔ Numeral text number := by
  simp only [numeral_iff, denotes_iff, parse?, parseBelow?, Option.map_eq_some_iff]
  constructor
  · rintro ⟨read, taken, rfl⟩
    split at taken
    case isTrue numeral =>
      obtain rfl := Option.some.inj taken
      exact ⟨numeral.1, numeral.2.1, (UInt64.toNat_ofNat_of_lt numeral.2.2).symm⟩
    case isFalse => cases taken
  · rintro ⟨some, digits, same⟩
    refine ⟨number.toNat, ?_, UInt64.ofNat_toNat⟩
    rw [same]
    exact if_pos ⟨some, digits, UInt64.toNat_lt number⟩

example : parse? "+018446744073709551615" = some (0 - 1) ∧ parse? "18446744073709551616" = none ∧
    parse? "++1" = none ∧ parse? "+" = none := by decide +kernel

theorem parse?_eq_none_iff {text : String} :
    parse? text = none ↔ ∀ number, ¬ Numeral text number := by
  rw [Option.eq_none_iff_forall_ne_some]
  exact forall_congr' fun _ => not_congr parse?_eq_some_iff

theorem Numeral.unique {text : String} {number other : UInt64} (one : Numeral text number)
    (two : Numeral text other) : number = other :=
  UInt64.toNat_inj.mp ((numeral_iff.mp one).unique (numeral_iff.mp two))

end Signet.Decimal
