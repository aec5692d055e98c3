import Signet.Decimal.Shortest

/-! The 64-bit floating point number nearest to a rational; of two equally near, the one with an even
significand. All arithmetic is exact. -/

namespace Signet.Decimal

/-- The bits of positive infinity. -/
def infinityBits : Nat := 0x7ff0000000000000

namespace Ratio

/-- The rational `ratio / 2 ^ exponent`. -/
def scaled (ratio : Ratio) (exponent : Int) : Ratio :=
  if exponent < 0 then ⟨ratio.num <<< exponent.natAbs, ratio.den⟩
  else ⟨ratio.num, ratio.den <<< exponent.natAbs⟩

/-- The whole number nearest to a rational; of two equally near, the even one. -/
def rounded (ratio : Ratio) : Nat :=
  let whole := ratio.num / ratio.den
  let rest := ratio.num % ratio.den
  if 2 * rest < ratio.den ∨ 2 * rest = ratio.den ∧ whole % 2 = 0 then whole else whole + 1

/-- A rational is at most half a unit away from the whole number that it is rounded to. -/
theorem rounded_near {ratio : Ratio} (proper : 0 < ratio.den) :
    2 * ratio.num ≤ 2 * (ratio.rounded * ratio.den) + ratio.den ∧
      2 * (ratio.rounded * ratio.den) ≤ 2 * ratio.num + ratio.den := by
  have split := Nat.div_add_mod ratio.num ratio.den
  have small := Nat.mod_lt ratio.num proper
  rw [Nat.mul_comm] at split
  simp only [rounded]
  split
  · omega
  · rw [Nat.add_mul]
    omega

/-- The exponent of two at which the significand of a positive rational has its 53 bits, or fewer of
them if the exponent would be out of range. -/
def binaryExponent (ratio : Ratio) : Int :=
  let least := max ((ratio.num.log2 : Int) - ratio.den.log2 - 53) (-1074)
  let significand := ratio.scaled least
  if 2 * leadingBit ≤ significand.num / significand.den then least + 1 else least

/-- The bits of the number nearest to a rational. A significand that is rounded up to its next power
of two carries into the exponent. -/
def nearest (ratio : Ratio) : Nat :=
  if ratio.num = 0 then 0
  else
    let exponent := ratio.binaryExponent
    min infinityBits ((exponent + 1074).toNat * leadingBit + (ratio.scaled exponent).rounded)

end Ratio

/-- Exponents of a leading digit outside these bounds leave the range of floating point numbers. -/
def leadingBounds : Int × Int := (-330, 310)

/-- The bits of the number nearest to `count * 10 ^ exponent`. -/
def nearestDecimal (count : Nat) (exponent : Int) : Nat :=
  let leading := exponent + (digits count).length - 1
  if count = 0 ∨ leading < leadingBounds.1 then 0
  else if leadingBounds.2 < leading then infinityBits
  else (Ratio.ofDecimal count exponent).nearest

end Signet.Decimal
