import Signet.Log.FieldValue
import Signet.Log.Threshold

/-! Directives: rules that tell from which level on some reports are shown. Their places are counted
in bytes from the first character that is not blank, but parts are cut out of the whole text; where
blanks come first, the cuts are therefore early. -/

namespace Signet.Log

/-- One rule of a filter. -/
structure Directive where
  /-- What the name of a report's origin begins with. -/
  target : Option String := none
  /-- The span inside which reports are meant. -/
  span : Option String := none
  /-- A field that reports have, perhaps with a value. -/
  field : Option (String × Option FieldValue) := none
  threshold : Threshold := some .trace
  deriving DecidableEq, Repr

namespace Directive

/-- Why a text is no directive. -/
inductive Fault where
  | malformed
  /-- A part would begin or end inside a character. -/
  | cutCharacter
  deriving DecidableEq, Repr

/-- How far reading a directive has come; places count bytes. -/
inductive Place where
  | start
  | word (since : Nat)
  | threshold (since : Nat)
  | span (since : Nat)
  | field (since : Nat)
  | fields
  | target
  deriving DecidableEq, Repr

/-- Whether a directive may begin with a character. -/
def mayBegin (char : Char) : Bool :=
  char = '-' || char = ':' || char = '_' || Text.isAlphanumeric char

/-- Number of bytes of a text. -/
def size : List Char → Nat
  | [] => 0
  | char :: rest => char.utf8Size + size rest

/-- The characters before a place and those behind it, unless it is inside a character. -/
def splitAt? : Nat → List Char → Option (List Char × List Char)
  | 0, text => some ([], text)
  | _, [] => some ([], [])
  | bytes, char :: rest =>
    if char.utf8Size ≤ bytes then
      (splitAt? (bytes - char.utf8Size) rest).map fun (before, behind) => (char :: before, behind)
    else none

/-- A split loses nothing. -/
theorem append_of_splitAt? {bytes : Nat} {text before behind : List Char}
    (found : splitAt? bytes text = some (before, behind)) : before ++ behind = text := by
  fun_induction splitAt? bytes text generalizing before behind with
  | case1 text => grind
  | case2 => grind
  | case3 bytes char rest _ fits ih =>
    obtain ⟨⟨head, tail⟩, inner, same⟩ := Option.map_eq_some_iff.1 found
    grind
  | case4 => grind

/-- A split is made at its place. -/
theorem size_of_splitAt? {bytes : Nat} {text before behind : List Char}
    (found : splitAt? bytes text = some (before, behind)) (inside : bytes ≤ size text) :
    size before = bytes := by
  fun_induction splitAt? bytes text generalizing before behind with
  | case1 text => grind [size]
  | case2 bytes => grind [size]
  | case3 bytes char rest _ fits ih =>
    obtain ⟨⟨head, tail⟩, inner, same⟩ := Option.map_eq_some_iff.1 found
    have bounded : bytes - char.utf8Size ≤ size rest := by
      simp only [size] at inside
      omega
    have exact := ih inner bounded
    cases same
    simp only [size]
    omega
  | case4 => grind

/-- The text from one place up to another. -/
def cut (text : List Char) (since upTo : Nat) : Except Fault String :=
  match splitAt? upTo text with
  | none => .error .cutCharacter
  | some (before, _) =>
    match splitAt? since before with
    | none => .error .cutCharacter
    | some (_, part) => .ok (String.ofList part)

/-- A field with its value; what follows a second sign of equality does not count. -/
def fieldOf (text : String) : Except Fault (String × Option FieldValue) :=
  let name := String.ofList (text.toList.takeWhile (· ≠ '='))
  match text.toList.dropWhile (· ≠ '=') with
  | [] => .ok (name, none)
  | _ :: value =>
    match FieldValue.ofText? (String.ofList (value.takeWhile (· ≠ '='))) with
    | some value => .ok (name, some value)
    | none => .error .malformed

/-- The threshold of a word; an empty one shows all. -/
def thresholdOf (word : String) : Except Fault Threshold :=
  if word = "" then .ok (some .trace)
  else
    match Threshold.ofText? word with
    | some threshold => .ok threshold
    | none => .error .malformed

/-- Takes the character at a place. -/
def step (text : List Char) (place : Place) (directive : Directive) (index : Nat) (char : Char) :
    Except Fault (Place × Directive) := do
  match place with
  | .start =>
    if char = '[' then return (.span (index + 1), directive)
    else if mayBegin char then return (.word index, directive)
    else throw .malformed
  | .word since =>
    if char = '=' then
      return (.threshold (index + 1), { directive with target := some (← cut text since index) })
    else if char = '[' then
      return (.span (index + 1), { directive with target := some (← cut text since index) })
    else return (place, directive)
  | .threshold _ => return (place, directive)
  | .span since =>
    if char = ']' then
      return (.target, { directive with span := some (← cut text since index) })
    else if char = '\x7b' then
      let name ← cut text since index
      let span := if name = "" then none else some name
      return (.field (index + 1), { directive with span })
    else return (place, directive)
  | .field since =>
    if char = '\x7d' then
      let field ← cut text since index
      if field = "" then throw .malformed
      else return (.fields, { directive with field := some (← fieldOf field) })
    else return (place, directive)
  | .fields => if char = ']' then return (.target, directive) else throw .malformed
  | .target => if char = '=' then return (.threshold (index + 1), directive) else throw .malformed

/-- Takes all characters from a place on. -/
def steps (text : List Char) : List Char → Nat → Place → Directive → Except Fault (Place × Directive)
  | [], _, place, directive => .ok (place, directive)
  | char :: rest, index, place, directive => do
    let (place, directive) ← step text place directive index char
    steps text rest (index + char.utf8Size) place directive

/-- Ends a directive. A word that names no threshold names a target. -/
def finish (text : List Char) (place : Place) (directive : Directive) : Except Fault Directive := do
  match place with
  | .word since =>
    let word ← cut text since (size text)
    match Threshold.ofText? word with
    | some threshold => return { directive with threshold }
    | none => return { directive with target := some word }
  | .threshold since =>
    return { directive with threshold := ← thresholdOf (← cut text since (size text)) }
  | .target => return directive
  | _ => throw .malformed

/-- The directive of a text. -/
def ofText (text : String) : Except Fault Directive := do
  let chars := text.toList
  let (place, directive) ← steps chars (Text.trimmed chars) 0 .start {}
  finish chars place directive

/-- Whether a directive looks at spans or at fields. -/
def isDynamic (directive : Directive) : Bool := directive.span.isSome || directive.field.isSome

/-- The value that a directive wants its field to have. -/
def value? (directive : Directive) : Option FieldValue := directive.field.bind Prod.snd

/-- Whether a directive can be applied to a report on its own. -/
def isStatic (directive : Directive) : Bool := directive.span.isNone && directive.value?.isNone

/-- Whether two fields are the same, with the same value if any. -/
def sameField (first second : Option (String × Option FieldValue)) : Bool :=
  match first, second with
  | some (first, some value), some (second, some other) => first = second && value.same other
  | _, _ => first = second

/-- Whether two directives are about the same reports. -/
def sameScope (first second : Directive) : Bool :=
  first.target = second.target && first.span = second.span && sameField first.field second.field

/-- The text of a directive. -/
def text (directive : Directive) : String :=
  let fields :=
    match directive.field with
    | some (name, some value) => s!"\x7b{name}={value.text}\x7d"
    | some (name, none) => s!"\x7b{name}\x7d"
    | none => ""
  let brackets :=
    if directive.isDynamic then "[" ++ directive.span.getD "" ++ fields ++ "]" else ""
  let scope := directive.target.getD "" ++ brackets
  (if directive.target.isSome || directive.isDynamic then scope ++ "=" else "") ++
    Threshold.word directive.threshold

/-- Whether a directive applies to a report from this origin. -/
def applies (directive : Directive) (origin : String) (event : Event) : Bool :=
  (directive.target.getD "").toList.isPrefixOf origin.toList &&
    match directive.field with
    | some (name, _) => name = "message" || event.fields.any (·.1 = name)
    | none => true

/-- How long the beginning is that a directive wants; even an empty one counts. -/
def reach (directive : Directive) : Nat :=
  (directive.target.map fun name => name.utf8ByteSize + 1).getD 0

/-- Whether a directive is more specific than another one that applies to the same report: it has a
longer target, or a field, or one that is later in the order of names. -/
def moreSpecific (first second : Directive) : Bool :=
  reach second < reach first ||
    reach first = reach second &&
      match first.field, second.field with
      | some _, none => true
      | some (first, _), some (second, _) => second < first
      | none, _ => false

end Directive
end Signet.Log
