import Signet.Log.Event

/-! From which level on reports are shown. -/

namespace Signet.Log

/-- How verbose reports may be. -/
def Level.verbosity : Level → Nat
  | error => 1
  | warn => 2
  | info => 3
  | debug => 4
  | trace => 5

/-- The name of a level in filters. -/
def Level.word (level : Level) : String := level.name.map Char.toLower

/-- The least level that is shown; none if nothing is. -/
abbrev Threshold := Option Level

namespace Threshold

/-- The name of a threshold in filters. -/
def word (threshold : Threshold) : String := (threshold.map Level.word).getD "off"

/-- All thresholds, the least verbose first. -/
def all : List Threshold :=
  [none, some .error, some .warn, some .info, some .debug, some .trace]

/-- The number in a run of digits. -/
def number? (text : List Char) : Option Nat :=
  let digits := match text with
    | '+' :: rest => rest
    | _ => text
  if digits ≠ [] ∧ digits.all Char.isDigit = true then
    some (digits.foldl (fun taken digit => taken * 10 + (digit.toNat - 48)) 0)
  else none

/-- The threshold of a word or a number; the empty word shows errors. -/
def ofText? (text : String) : Option Threshold :=
  match (number? text.toList).bind fun number => all[number]? with
  | some threshold => some threshold
  | none =>
    if text = "" then some (some .error)
    else all.find? fun threshold => threshold.word = text.map Char.toLower

/-- Whether a report of this level is shown. -/
def shows (threshold : Threshold) (level : Level) : Bool :=
  match threshold with
  | some least => level.verbosity ≤ least.verbosity
  | none => false

end Threshold
end Signet.Log
