/-! Classes of characters, given by runs of character numbers. -/

namespace Signet.Text

/-- The first and the last number of each run of a class. -/
abbrev Runs := List (Nat × Nat)

/-- Whether a run holds the character. -/
def Runs.contains (runs : Runs) (char : Char) : Bool :=
  runs.any fun run => run.1 ≤ char.toNat && char.toNat ≤ run.2

end Signet.Text
