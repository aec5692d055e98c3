import Signet.Text.Alphanumeric
import Signet.Text.Blank

/-! Patterns of texts, as directives write them: characters, classes in brackets, groups, choices and
repetitions. This module says which texts are patterns. A pattern has to make do without tables of
the world's scripts: classes of digits, blanks or words, bounds of words and letters of either case
are to be had for ASCII alone, after the flag `-u`. There are no counts in braces, because a closing
brace ends the directive's field. -/

namespace Signet.Log.Pattern

/-- How a pattern is read from some place on. -/
structure Mode where
  /-- Blanks and comments are passed over. -/
  verbose : Bool := false
  /-- Letters stand for either case. -/
  caseless : Bool := false
  /-- Characters of all scripts are meant, not bytes. -/
  unicode : Bool := true
  deriving DecidableEq, Repr

/-- Passes over blanks and over comments, each of which ends with its line. -/
def passBlanks : (inComment : Bool) → List Char → List Char
  | _, [] => []
  | true, char :: rest => passBlanks (char ≠ '\n') rest
  | false, char :: rest =>
    if Text.isBlank char then passBlanks false rest
    else if char = '#' then passBlanks true rest
    else char :: rest

namespace Mode

/-- Passes over what does not count. -/
def pass (mode : Mode) (text : List Char) : List Char :=
  if mode.verbose then passBlanks false text else text

/-- The character behind the next one, which decides whether that one makes a range. A comment mark
before it is passed over, but no comment. -/
def beyond? (mode : Mode) (text : List Char) : Option Char :=
  if mode.verbose then
    match (text.drop 1).dropWhile Text.isBlank with
    | '#' :: rest => (rest.dropWhile Text.isBlank).head?
    | rest => rest.head?
  else (text.drop 1).head?

/-- Sets or clears what the flags name. -/
def set (mode : Mode) : (state : Bool) → List Char → Mode
  | _, [] => mode
  | state, flag :: rest =>
    if flag = '-' then mode.set false rest
    else if flag = 'x' then { mode with verbose := state }.set state rest
    else if flag = 'i' then { mode with caseless := state }.set state rest
    else if flag = 'u' then { mode with unicode := state }.set state rest
    else mode.set state rest

end Mode

/-- What a character or an escape stands for. -/
inductive Atom where
  /-- One character, perhaps given by the number of a byte. -/
  | literal (char : Char) (byByte : Bool)
  | anything
  /-- The start or the end of a text or a line. -/
  | edge
  | wordBound
  /-- Digits, blanks or the characters of words, or all others. -/
  | kind (negated : Bool)
  deriving DecidableEq, Repr

namespace Atom

/-- Whether an atom outside classes can be had. -/
def available (mode : Mode) : Atom → Bool
  | literal char byByte =>
    if mode.unicode then !mode.caseless else !byByte || char.toNat < 128
  | anything => mode.unicode
  | edge => true
  | wordBound => !mode.unicode
  | kind negated => !mode.unicode && !negated

/-- Whether an atom inside a class can be had. -/
def availableInClass (mode : Mode) : Atom → Bool
  | literal char _ => if mode.unicode then !mode.caseless else char.toNat < 128
  | kind negated => !mode.unicode && !negated
  | _ => false

end Atom

/-- The value of a hexadecimal digit. -/
def hexDigit? (char : Char) : Option Nat :=
  if char.isDigit then some (char.toNat - 48)
  else if 'a' ≤ char ∧ char ≤ 'f' then some (char.toNat - 87)
  else if 'A' ≤ char ∧ char ≤ 'F' then some (char.toNat - 55)
  else none

/-- Takes this many hexadecimal digits behind others. -/
def takeHex (mode : Mode) : Nat → Nat → List Char → Option (Nat × List Char)
  | 0, taken, text => some (taken, mode.pass text)
  | count + 1, taken, text =>
    match mode.pass text with
    | [] => none
    | char :: rest => do takeHex mode count (taken * 16 + (← hexDigit? char)) rest

/-- The character that a letter behind a backslash stands for. -/
def namedChar? (letter : Char) : Option Char :=
  match letter with
  | 'a' => some '\x07'
  | 'f' => some '\x0c'
  | 't' => some '\t'
  | 'n' => some '\n'
  | 'r' => some '\r'
  | 'v' => some '\x0b'
  | _ => none

/-- Takes a character given by number. -/
def takeNumbered (mode : Mode) (digits : Nat) (text : List Char) : Option (Atom × List Char) := do
  let (number, rest) ← takeHex mode digits 0 text
  if number.isValidChar then some (.literal (Char.ofNat number) (digits = 2), rest) else none

/-- Takes an escape behind its backslash. Signs of ASCII stand for themselves. -/
def takeEscape (mode : Mode) : List Char → Option (Atom × List Char)
  | [] => none
  | char :: rest =>
    if char = 'x' then takeNumbered mode 2 rest
    else if char = 'u' then takeNumbered mode 4 rest
    else if char = 'U' then takeNumbered mode 8 rest
    else if ['d', 's', 'w'].contains char then some (.kind false, rest)
    else if ['D', 'S', 'W'].contains char then some (.kind true, rest)
    else if ['A', 'z'].contains char then some (.edge, rest)
    else if ['b', 'B', '<', '>'].contains char then some (.wordBound, rest)
    else if char.toNat < 128 ∧ char.isAlphanum = false then some (.literal char false, rest)
    else (namedChar? char).map fun meant => (.literal meant false, rest)

/-- Takes an atom outside classes. -/
def takeAtom (mode : Mode) : List Char → Option (Atom × List Char)
  | [] => none
  | char :: rest =>
    if char = '\\' then takeEscape mode rest
    else if char = '.' then some (.anything, rest)
    else if char = '^' ∨ char = '$' then some (.edge, rest)
    else some (.literal char false, rest)

/-- Takes an atom inside a class. -/
def takeClassAtom (mode : Mode) : List Char → Option (Atom × List Char)
  | [] => none
  | char :: rest => if char = '\\' then takeEscape mode rest else some (.literal char false, rest)

/-- Takes an atom inside a class, or a range from one character up to another. -/
def takeRange (mode : Mode) (text : List Char) : Option (List Char) := do
  let (first, rest) ← takeClassAtom mode text
  if !first.availableInClass mode then none
  else
    let rest := mode.pass rest
    let ahead := mode.beyond? rest
    if rest.head? ≠ some '-' ∨ ahead = some ']' ∨ ahead = some '-' then some rest
    else
      let (last, rest) ← takeClassAtom mode (mode.pass (rest.drop 1))
      match first, last with
      | .literal low _, .literal high _ =>
        if low ≤ high ∧ last.availableInClass mode = true then some rest else none
      | _, _ => none

/-- The depth of what holds parts of these depths; a part that stands alone is not held. -/
def depthOver : List Nat → Nat
  | [] => 0
  | [depth] => depth
  | depths => depths.foldl max 0 + 1

/-- The names of the classes of ASCII. -/
def classNames : List String :=
  ["alnum", "alpha", "ascii", "blank", "cntrl", "digit", "graph", "lower", "print", "punct", "space",
    "upper", "word", "xdigit"]

/-- Takes a class of ASCII that is named inside a class; tells whether all others are meant. -/
def takeNamedClass : List Char → Option (Bool × List Char)
  | '[' :: ':' :: rest =>
    let negated := rest.head? = some '^'
    let rest := if negated then rest.drop 1 else rest
    match rest.dropWhile (· ≠ ':') with
    | ':' :: ']' :: after =>
      if classNames.contains (String.ofList (rest.takeWhile (· ≠ ':'))) then some (negated, after)
      else none
    | _ => none
  | _ => none

/-- A class up to some place. -/
structure Bracket where
  /-- The depth of what stands before the last operator. -/
  left : Option Nat := none
  /-- The depths of the items behind it. -/
  items : List Nat := []
  /-- Whether only hyphens have been read. -/
  opening : Bool := true

namespace Bracket

/-- The depth of what has been read. -/
def depth (bracket : Bracket) : Nat :=
  match bracket.left with
  | none => depthOver bracket.items
  | some left => max left (depthOver bracket.items) + 1

/-- Adds an item. -/
def add (bracket : Bracket) (depth : Nat) : Bracket :=
  { bracket with items := depth :: bracket.items, opening := false }

/-- Ends an operand. -/
def split (bracket : Bracket) : Bracket := { left := some bracket.depth, opening := false }

end Bracket

/-- The start of a class behind its bracket; tells whether all other characters are meant. -/
def openClass (mode : Mode) (text : List Char) : Bool × List Char :=
  match mode.pass text with
  | '^' :: rest => (true, rest)
  | rest => (false, rest)

/-- Takes the rest of a class inside others, innermost first, and tells its depth. -/
def takeClass (mode : Mode) : (fuel : Nat) → Bracket → List Bracket → List Char →
    Option (Nat × List Char)
  | 0, _, _, _ => none
  | fuel + 1, bracket, outer, text =>
    let text := mode.pass text
    let plain := Atom.availableInClass mode (.literal '-' false)
    match text with
    | [] => none
    | char :: rest =>
      if bracket.opening ∧ char = '-' then
        if plain then takeClass mode fuel { bracket.add 0 with opening := true } outer rest else none
      else if bracket.opening ∧ bracket.items = [] ∧ char = ']' then
        if plain then takeClass mode fuel (bracket.add 0) outer rest else none
      else if char = ']' then
        match outer with
        | [] => some (bracket.depth + 1, rest)
        | parent :: outer => takeClass mode fuel (parent.add (bracket.depth + 1)) outer rest
      else if char = '[' then
        match takeNamedClass text with
        | some (negated, rest) =>
          let fits := if mode.unicode then !mode.caseless else !negated
          if fits then takeClass mode fuel (bracket.add 0) outer rest else none
        | none =>
          let (negated, rest) := openClass mode rest
          if negated ∧ mode.unicode = false then none
          else takeClass mode fuel {} ({ bracket with opening := false } :: outer) rest
      else if rest.head? = some char ∧ ['&', '-', '~'].contains char = true then
        takeClass mode fuel bracket.split outer (rest.drop 1)
      else
        match takeRange mode text with
        | some rest => takeClass mode fuel (bracket.add 0) outer rest
        | none => none

/-- One part of a sequence: how deep it is, and whether it may be repeated. -/
structure Part where
  depth : Nat
  repeatable : Bool := true

/-- A group up to some place. -/
structure Group where
  mode : Mode := {}
  /-- The depths of the choices that have ended. -/
  choices : List Nat := []
  /-- The parts of the choice that is being read, the last one first. -/
  parts : List Part := []

namespace Group

/-- The depth of the choice that is being read. -/
def choice (group : Group) : Nat := depthOver (group.parts.map (·.depth))

/-- The depth of what has been read. -/
def depth (group : Group) : Nat := depthOver (group.choice :: group.choices)

/-- Adds a part. -/
def add (group : Group) (part : Part) : Group := { group with parts := part :: group.parts }

/-- Ends a choice. -/
def split (group : Group) : Group :=
  { group with choices := group.choice :: group.choices, parts := [] }

/-- Repeats the last part. -/
def again? (group : Group) : Option Group :=
  match group.parts with
  | part :: others =>
    if part.repeatable then some { group with parts := ⟨part.depth + 1, true⟩ :: others } else none
  | [] => none

end Group

/-- A pattern up to some place: the group that is being read, those around it, and the names that
groups have been given. -/
structure Progress where
  group : Group := {}
  outer : List Group := []
  names : List String := []

namespace Progress

/-- Opens a group that is read in this mode. -/
def enter (progress : Progress) (mode : Mode) : Progress :=
  { progress with group := { mode }, outer := progress.group :: progress.outer }

/-- Ends a group. -/
def leave? (progress : Progress) : Option Progress :=
  match progress.outer with
  | [] => none
  | parent :: outer =>
    some { progress with group := parent.add ⟨progress.group.depth + 1, true⟩, outer }

end Progress

/-- Whether the characters make the name of a group. -/
def isName : List Char → Bool
  | [] => false
  | first :: rest =>
    (first = '_' || Text.isAlphabetic first) && rest.all fun char =>
      ['_', '.', '[', ']'].contains char || Text.isAlphanumeric char

/-- Opens a group with a name. -/
def openNamed (progress : Progress) (text : List Char) : Option (Progress × List Char) :=
  let name := text.takeWhile (· ≠ '>')
  match text.dropWhile (· ≠ '>') with
  | [] => none
  | _ :: rest =>
    let names := String.ofList name :: progress.names
    if isName name ∧ names.Nodup then some ({ progress with names }.enter progress.group.mode, rest)
    else none

/-- Whether the characters are flags, each once; the hyphen before those to be cleared is not last. -/
def areFlags (flags : List Char) : Bool :=
  flags.all ['i', 'm', 's', 'U', 'u', 'R', 'x', '-'].contains && decide flags.Nodup &&
    flags.getLast? ≠ some '-'

/-- Sets flags for the rest of a group, or opens a group with flags. -/
def openFlagged (progress : Progress) (text : List Char) : Option (Progress × List Char) :=
  let ends := fun char => char = ':' || char = ')'
  let flags := text.takeWhile (!ends ·)
  let mode := progress.group.mode.set true flags
  if areFlags flags then
    match text.dropWhile (!ends ·) with
    | ':' :: rest => some (progress.enter mode, rest)
    | ')' :: rest =>
      if flags = [] then none
      else some ({ progress with group := { progress.group with mode }.add ⟨0, false⟩ }, rest)
    | _ => none
  else none

/-- Opens a group behind its parenthesis. What stands around a place cannot be asked for. -/
def openGroup (progress : Progress) (text : List Char) : Option (Progress × List Char) :=
  match progress.group.mode.pass text with
  | '?' :: '=' :: _ => none
  | '?' :: '!' :: _ => none
  | '?' :: '<' :: '=' :: _ => none
  | '?' :: '<' :: '!' :: _ => none
  | '?' :: 'P' :: '<' :: rest => openNamed progress rest
  | '?' :: '<' :: rest => openNamed progress rest
  | '?' :: rest => openFlagged progress rest
  | rest => some (progress.enter progress.group.mode, rest)

/-- Takes an atom or a class. -/
def takePart (mode : Mode) (text : List Char) : Option (Part × List Char) := do
  match text with
  | '[' :: rest =>
    let (negated, rest) := openClass mode rest
    if negated ∧ mode.unicode = false then none
    else
      let (depth, rest) ← takeClass mode (rest.length + 1) {} [] rest
      some (⟨depth, true⟩, rest)
  | _ =>
    let (atom, rest) ← takeAtom mode text
    if atom.available mode then some (⟨0, true⟩, rest) else none

/-- Takes the next part or sign of a pattern. -/
def step (progress : Progress) (text : List Char) : Option (Progress × List Char) :=
  match text with
  | [] => none
  | char :: rest =>
    if char = '(' then openGroup progress rest
    else if char = ')' then progress.leave?.map fun progress => (progress, rest)
    else if char = '|' then some ({ progress with group := progress.group.split }, rest)
    else if char = '\x7b' then none
    else if ['?', '*', '+'].contains char then
      let rest := if rest.head? = some '?' then rest.drop 1 else rest
      progress.group.again?.map fun group => ({ progress with group }, rest)
    else
      (takePart progress.group.mode text).map fun (part, rest) =>
        ({ progress with group := progress.group.add part }, rest)

/-- How deep a pattern may be. -/
def deepest : Nat := 250

/-- Whether the text goes on to make a pattern. -/
def completes : (fuel : Nat) → Progress → List Char → Bool
  | 0, _, _ => false
  | fuel + 1, progress, text =>
    match progress.group.mode.pass text with
    | [] => progress.outer.isEmpty && progress.group.depth ≤ deepest
    | text =>
      match step progress text with
      | some (progress, rest) => completes fuel progress rest
      | none => false

/-- Whether the text is a pattern. -/
def isPattern (text : String) : Bool := completes (text.length + 1) {} text.toList

end Signet.Log.Pattern
