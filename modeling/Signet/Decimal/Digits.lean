import Signet.Text.Utf8

/-! Decimal numerals: the digits of a natural number, without leading zeros, and the number that a
run of digits denotes. Reading the written digits back gives the number. -/

namespace Signet.Decimal

/-- Whether the byte is one of the ten ASCII digits. -/
def isDigit (byte : UInt8) : Bool := 48 ≤ byte && byte ≤ 57

/-- The number a digit stands for. -/
def digitValue (byte : UInt8) : Nat := byte.toNat - 48

/-- The digit that stands for a number below ten. -/
def digit (value : Nat) : UInt8 := UInt8.ofNat (48 + value)

/-- The decimal digits of a number, most significant first. -/
def digits (value : Nat) : Bytes :=
  if value < 10 then [digit value] else digits (value / 10) ++ [digit (value % 10)]

/-- The number denoted by `taken` followed by these digits. -/
def value (taken : Nat) (run : Bytes) : Nat :=
  run.foldl (fun number byte => number * 10 + digitValue byte) taken

theorem isDigit_digit {value : Nat} (small : value < 10) : isDigit (digit value) = true := by
  have cases : value = 0 ∨ value = 1 ∨ value = 2 ∨ value = 3 ∨ value = 4 ∨ value = 5 ∨
      value = 6 ∨ value = 7 ∨ value = 8 ∨ value = 9 := by omega
  rcases cases with rfl | rfl | rfl | rfl | rfl | rfl | rfl | rfl | rfl | rfl <;> decide

theorem digitValue_digit {value : Nat} (small : value < 10) : digitValue (digit value) = value := by
  simp only [digitValue, digit, UInt8.toNat_ofNat']
  omega

theorem all_isDigit_digits (value : Nat) : (digits value).all isDigit = true := by
  induction value using digits.induct with
  | case1 value small =>
    rw [digits]
    simp [small, isDigit_digit small]
  | case2 value large ih =>
    rw [digits]
    simp [large, ih, isDigit_digit (Nat.mod_lt value (by omega : 10 > 0))]

/-- Reading the digits of a number after some others appends it to the number read so far. -/
theorem value_digits (number : Nat) : value 0 (digits number) = number := by
  induction number using digits.induct with
  | case1 number small =>
    rw [digits]
    simp [small, value, digitValue_digit small]
  | case2 number large ih =>
    rw [digits]
    have last := digitValue_digit (Nat.mod_lt number (by omega : 10 > 0))
    simp only [large, ↓reduceIte, value, List.foldl_append] at ih ⊢
    simp only [ih, List.foldl_cons, List.foldl_nil, last]
    omega

theorem digits_ne_nil (value : Nat) : digits value ≠ [] := by
  rw [digits]
  split <;> simp

end Signet.Decimal
