import Signet.Decimal.Digits

/-! The shortest decimal text that reads back as a given binary floating point number: the fewest
significant digits that lie closer to it than to its neighbours, and of those the nearest. All
arithmetic is exact. -/

namespace Signet.Decimal

/-- A positive rational number. -/
structure Ratio where
  num : Nat
  den : Nat

namespace Ratio

/-- The rational `factor * 2 ^ exponent`. -/
def ofBinary (factor : Nat) (exponent : Int) : Ratio :=
  if exponent < 0 then ⟨factor, 1 <<< exponent.natAbs⟩ else ⟨factor <<< exponent.natAbs, 1⟩

/-- Ten times itself so often. -/
def tenTo (exponent : Nat) : Nat := Nat.pow 10 exponent

/-- The rational `factor * 10 ^ exponent`. -/
def ofDecimal (factor : Nat) (exponent : Int) : Ratio :=
  if exponent < 0 then ⟨factor, tenTo exponent.natAbs⟩ else ⟨factor * tenTo exponent.natAbs, 1⟩

def lt (first second : Ratio) : Bool := first.num * second.den < second.num * first.den

def le (first second : Ratio) : Bool := first.num * second.den ≤ second.num * first.den

/-- The distance between two rationals. -/
def distance (first second : Ratio) : Ratio :=
  let left := first.num * second.den
  let right := second.num * first.den
  ⟨(left - right) + (right - left), first.den * second.den⟩

/-- The whole part of `ratio / 10 ^ exponent`. -/
def floorAt (ratio : Ratio) (exponent : Int) : Nat :=
  if exponent < 0 then ratio.num * tenTo exponent.natAbs / ratio.den
  else ratio.num / (ratio.den * tenTo exponent.natAbs)

/-- The exponent of the leading decimal digit. -/
def magnitude (ratio : Ratio) : Int :=
  if ratio.den ≤ ratio.num then ((digits (ratio.num / ratio.den)).length : Int) - 1
  else
    let extra := (digits ratio.den).length + 1
    ((digits (ratio.num * tenTo extra / ratio.den)).length : Int) - 1 - extra

end Ratio

/-- The rationals that round to one floating point number. -/
structure Interval where
  low : Ratio
  value : Ratio
  high : Ratio
  closed : Bool

namespace Interval

/-- Whether the point rounds to the number of the interval. -/
def holds (interval : Interval) (point : Ratio) : Bool :=
  if interval.closed then interval.low.le point && point.le interval.high
  else interval.low.lt point && point.lt interval.high

/-- Of the two points of the grid `10 ^ exponent` beside the number, the nearest that rounds to it;
the even one of two equally near. -/
def onGrid (interval : Interval) (exponent : Int) : Option Nat :=
  let below := interval.value.floorAt exponent
  let hit := fun count => interval.holds (Ratio.ofDecimal count exponent)
  let gap := fun count => (Ratio.ofDecimal count exponent).distance interval.value
  match hit below, hit (below + 1) with
  | false, false => none
  | true, false => some below
  | false, true => some (below + 1)
  | true, true =>
    if (gap below).lt (gap (below + 1)) then some below
    else if (gap (below + 1)).lt (gap below) then some (below + 1)
    else some (if below % 2 = 0 then below else below + 1)

/-- The first grid with a hit, starting with the coarsest. -/
def coarsest (interval : Interval) (magnitude : Int) : List Nat → Nat × Int
  | [] => (interval.value.floorAt (magnitude - 16), magnitude - 16)
  | width :: wider =>
    match interval.onGrid (magnitude - width) with
    | some count => (count, magnitude - width)
    | none => interval.coarsest magnitude wider

end Interval

/-- The bit in front of the fraction. -/
def leadingBit : Nat := 0x10000000000000

/-- The bit that makes a number negative. -/
def signBit : Nat := 0x8000000000000000

/-- The significand and the exponent of two of a finite 64-bit floating point number. -/
def parts (bits : UInt64) : Nat × Int :=
  let fraction : Nat := bits.toNat % leadingBit
  let exponent : Nat := bits.toNat / leadingBit % 0x800
  if exponent = 0 then (fraction, -1074) else (leadingBit + fraction, (exponent : Int) - 1075)

/-- The interval of a finite nonzero number; its lower half is shorter at a power of two. -/
def interval (bits : UInt64) : Interval :=
  let (significand, exponent) := parts bits
  let narrow := significand = leadingBit ∧ exponent ≠ -1074
  { low := if narrow then Ratio.ofBinary (4 * significand - 1) (exponent - 2)
      else Ratio.ofBinary (2 * significand - 1) (exponent - 1)
    value := Ratio.ofBinary significand exponent
    high := Ratio.ofBinary (2 * significand + 1) (exponent - 1)
    closed := significand % 2 = 0 }

/-- Drops the zeros at the end of a count of `10 ^ exponent`. -/
def trimmed : Nat → Nat → Int → Nat × Int
  | 0, count, exponent => (count, exponent)
  | fuel + 1, count, exponent =>
    if count % 10 = 0 ∧ count ≠ 0 then trimmed fuel (count / 10) (exponent + 1)
    else (count, exponent)

/-- The shortest decimal of a finite nonzero number, as a count of a power of ten. -/
def shortest (bits : UInt64) : Nat × Int :=
  let interval := interval bits
  let (count, exponent) := interval.coarsest interval.value.magnitude (List.range 17)
  trimmed 20 count exponent

/-- How a floating point number is laid out. -/
structure Layout where
  /-- Least exponent of the leading digit that is written without an exponent. -/
  leastPlain : Int
  /-- Greatest exponent of the leading digit that is written without an exponent. -/
  greatestPlain : Int
  /-- Whether a positive exponent has a sign. -/
  plus : Bool
  /-- Whether a whole number written without an exponent has a point and a zero behind it. -/
  point : Bool := true

namespace Layout

/-- What stands behind a whole number. -/
def wholeEnd (layout : Layout) : Bytes := if layout.point then [46, digit 0] else []

/-- The text of a positive count of a power of ten. -/
def positive (layout : Layout) (count : Nat) (exponent : Int) : Bytes :=
  let run := digits count
  let leading := exponent + run.length - 1
  let point : UInt8 := 46
  if layout.leastPlain ≤ leading ∧ leading ≤ layout.greatestPlain then
    if 0 ≤ exponent then run ++ List.replicate exponent.toNat (digit 0) ++ layout.wholeEnd
    else if 0 ≤ leading then
      run.take (leading.toNat + 1) ++ [point] ++ run.drop (leading.toNat + 1)
    else [digit 0, point] ++ List.replicate (leading.natAbs - 1) (digit 0) ++ run
  else
    let tail := run.drop 1
    let sign : Bytes := if leading < 0 then [45] else if layout.plus then [43] else []
    run.take 1 ++ (if tail.isEmpty then [] else point :: tail) ++ [101] ++ sign ++
      digits leading.natAbs

/-- The text of a finite floating point number given by its bits. -/
def float (layout : Layout) (bits : UInt64) : Bytes :=
  let sign : Bytes := if signBit ≤ bits.toNat then [45] else []
  if bits.toNat % signBit = 0 then sign ++ [digit 0] ++ layout.wholeEnd
  else
    let (count, exponent) := shortest bits
    sign ++ layout.positive count exponent

end Layout
end Signet.Decimal
