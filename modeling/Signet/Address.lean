/-! Addresses to listen on: four numbers or eight groups name a host, and one more number a channel of
it. -/

namespace Signet

/-- An address to listen on. -/
inductive Address where
  | four (parts : List Nat) (channel : Nat)
  | six (groups : List Nat) (scope channel : Nat)
  deriving DecidableEq, Repr

namespace Address

/-- The number that a digit stands for. -/
def digit? (base : Nat) (char : Char) : Option Nat :=
  let value :=
    if char.isDigit then some (char.toNat - 48)
    else if 'a' ≤ char ∧ char ≤ 'f' then some (char.toNat - 87)
    else if 'A' ≤ char ∧ char ≤ 'F' then some (char.toNat - 55)
    else none
  value.filter (· < base)

/-- The digits at the front as numbers, and what follows them. -/
def digits (base : Nat) : List Char → List Nat × List Char
  | [] => ([], [])
  | char :: rest =>
    match digit? base char with
    | some value => let (values, rest) := digits base rest; (value :: values, rest)
    | none => ([], char :: rest)

/-- A number at the front, with at most so many digits and below a bound. -/
def number? (base most bound : Nat) (leadingZeros : Bool) (text : List Char) :
    Option (Nat × List Char) :=
  let (run, rest) := digits base text
  let value := run.foldl (fun taken next => taken * base + next) 0
  if run = [] ∨ most < run.length ∨ bound ≤ value then none
  else if leadingZeros = false ∧ run.head? = some 0 ∧ 1 < run.length then none
  else some (value, rest)

/-- A character that has to come next. -/
def after? (wanted : Char) : List Char → Option (List Char)
  | char :: rest => if char = wanted then some rest else none
  | [] => none

/-- Four numbers with points between them. -/
def quad? (text : List Char) : Option (List Nat × List Char) := do
  let (first, rest) ← number? 10 3 256 false text
  let (second, rest) ← number? 10 3 256 false (← after? '.' rest)
  let (third, rest) ← number? 10 3 256 false (← after? '.' rest)
  let (fourth, rest) ← number? 10 3 256 false (← after? '.' rest)
  return ([first, second, third, fourth], rest)

/-- Two groups from four numbers. -/
def pairUp : List Nat → List Nat
  | [first, second, third, fourth] => [first * 256 + second, third * 256 + fourth]
  | _ => []

/-- Up to so many groups with colons between them, the last two of which may be written as four
numbers, and whether they are. -/
def groups : Nat → Bool → List Char → List Nat × Bool × List Char
  | 0, _, text => ([], false, text)
  | left + 1, start, text =>
    let behind := if start then some text else after? ':' text
    match if left = 0 then none else behind.bind quad? with
    | some (parts, rest) => (pairUp parts, true, rest)
    | none =>
      match behind.bind (number? 16 4 65536 true) with
      | none => ([], false, text)
      | some (group, rest) =>
        let (others, quad, rest) := groups left false rest
        (group :: others, quad, rest)

/-- Eight groups, or fewer around a double colon that stands for the zeros left out. -/
def eight? (text : List Char) : Option (List Nat × List Char) :=
  let (front, quad, rest) := groups 8 true text
  if front.length = 8 then some (front, rest)
  else if quad then none
  else
    match (after? ':' rest).bind (after? ':') with
    | none => none
    | some rest =>
      let (back, _, rest) := groups (7 - front.length) true rest
      some (front ++ List.replicate (8 - front.length - back.length) 0 ++ back, rest)

/-- A channel behind its colon, with nothing after it. -/
def channel? (text : List Char) : Option Nat := do
  let rest ← after? ':' text
  let (channel, rest) ← number? 10 rest.length 65536 true rest
  if rest = [] then some channel else none

/-- A scope, zero if there is none, and what follows it. -/
def scope (text : List Char) : Nat × List Char :=
  ((after? '%' text).bind fun rest => number? 10 rest.length UInt32.size true rest).getD (0, text)

/-- The address that a text names. -/
def ofText? (text : String) : Option Address :=
  match quad? text.toList with
  | some (parts, rest) => (channel? rest).map (four parts)
  | none => do
    let (groups, rest) ← eight? (← after? '[' text.toList)
    let (scope, rest) := scope rest
    let rest ← after? ']' rest
    return six groups scope (← channel? rest)

/-- Texts with a separator between them. -/
def joined (separator : String) (texts : List String) : String := separator.intercalate texts

/-- Groups in hexadecimal digits. -/
def groupTexts (groups : List Nat) : String :=
  joined ":" (groups.map fun group => String.ofList (Nat.toDigits 16 group))

/-- The zeros at the front of the groups from each place on. -/
def zeroRuns : List Nat → List Nat
  | [] => []
  | group :: rest =>
    let runs := zeroRuns rest
    (if group = 0 then runs.headD 0 + 1 else 0) :: runs

/-- Eight groups; the longest run of zeros, if it is longer than one, becomes a double colon. -/
def eightText (groups : List Nat) : String :=
  match groups with
  | [0, 0, 0, 0, 0, 65535, high, low] =>
    "::ffff:" ++ joined "." ([high / 256, high % 256, low / 256, low % 256].map toString)
  | _ =>
    let runs := zeroRuns groups
    let longest := runs.foldl max 0
    if longest ≤ 1 then groupTexts groups
    else
      let place := runs.idxOf longest
      groupTexts (groups.take place) ++ "::" ++ groupTexts (groups.drop (place + longest))

/-- The text of an address. -/
def text : Address → String
  | four parts channel => joined "." (parts.map toString) ++ s!":{channel}"
  | six groups scope channel =>
    let mark := if scope = 0 then "" else s!"%{scope}"
    s!"[{eightText groups}{mark}]:{channel}"

/-- What is wrong with a text that names no address. -/
def syntaxFault : String := "invalid socket address syntax"

end Address
end Signet
