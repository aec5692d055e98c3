/-! Times. Wall clocks count whole seconds since the epoch in 64 bits; the store's clock counts
nanoseconds from some moment before it started. -/

namespace Signet

/-- Seconds since the epoch. -/
abbrev Timestamp := UInt64

/-- The sum, or the greatest number of 64 bits if it does not fit. -/
def saturatingAdd (first second : UInt64) : UInt64 :=
  if first.toNat + second.toNat < UInt64.size then first + second
  else UInt64.ofNat (UInt64.size - 1)

/-- The difference, or zero if it is negative. -/
def saturatingSub (first second : UInt64) : UInt64 :=
  if second ≤ first then first - second else 0

theorem toNat_saturatingAdd (first second : UInt64) :
    (saturatingAdd first second).toNat = min (first.toNat + second.toNat) (UInt64.size - 1) := by
  simp only [saturatingAdd, UInt64.size]
  split
  · rw [UInt64.toNat_add]
    omega
  · simp
    omega

theorem toNat_saturatingSub (first second : UInt64) :
    (saturatingSub first second).toNat = first.toNat - second.toNat := by
  unfold saturatingSub
  split
  case isTrue le => exact UInt64.toNat_sub_of_le _ _ le
  case isFalse gt =>
    rw [UInt64.le_iff_toNat_le] at gt
    simp
    omega

/-- A length of time in nanoseconds. -/
abbrev Span := Nat

namespace Span

/-- Nanoseconds of a second. -/
def second : Span := 1000000000

/-- Nanoseconds of a millisecond. -/
def millisecond : Span := 1000000

def ofSeconds (count : Nat) : Span := count * second

def ofMillis (count : Nat) : Span := count * millisecond

/-- Whole milliseconds of a length of time. -/
def toMillis (span : Span) : Nat := span / millisecond

/-- The longest length of time that can be named. -/
def greatest : Span := ofSeconds UInt64.size - 1

/-- The digits after the point, without zeros at the end. -/
def fractionText (width part : Nat) : String :=
  if part = 0 then ""
  else
    let digits := (toString part).toList
    let filled := List.replicate (width - digits.length) '0' ++ digits
    "." ++ String.ofList (filled.reverse.dropWhile (· = '0')).reverse

/-- A length of time in the largest unit of which it holds at least one. -/
def text (span : Span) : String :=
  if second ≤ span then s!"{span / second}{fractionText 9 (span % second)}s"
  else if millisecond ≤ span then
    s!"{span / millisecond}{fractionText 6 (span % millisecond)}ms"
  else if 1000 ≤ span then s!"{span / 1000}{fractionText 3 (span % 1000)}µs"
  else s!"{span}ns"

end Span

/-- A moment of the store's clock. -/
abbrev Instant := Nat

/-- Moments are whole seconds below this bound, and a part of a second. -/
def instantBound : Nat := 0x8000000000000000

/-- The moment this long after another, if it can be named. -/
def Instant.after? (now : Instant) (span : Span) : Option Instant :=
  if (now + span) / Span.second < instantBound then some (now + span) else none

end Signet
