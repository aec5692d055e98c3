import Signet.Log.Directive

/-! Filters of reports. A filter is a set of directives; the most specific one that applies to a
report tells from which level on it is shown, and without one it is not shown. -/

namespace Signet.Log

/-- Directives, no two of one kind about the same reports. -/
structure Filter where
  statics : List Directive := []
  dynamics : List Directive := []
  deriving DecidableEq, Repr

namespace Filter

/-- Adds a directive to others in place of one about the same reports. -/
def replace (directives : List Directive) (directive : Directive) : List Directive :=
  directives.filter (!·.sameScope directive) ++ [directive]

/-- Adds a directive. -/
def add (filter : Filter) (directive : Directive) : Filter :=
  if directive.isStatic then { filter with statics := replace filter.statics directive }
  else { filter with dynamics := replace filter.dynamics directive }

/-- The filter of some directives. One that can be applied to a report on its own and also looks at
fields is of both kinds. -/
def ofDirectives (directives : List Directive) : Filter :=
  let dynamic := directives.filter (·.isDynamic)
  let plain := directives.filter (!·.isDynamic)
  ⟨(plain ++ dynamic.filter (·.isStatic)).foldl replace [], dynamic.foldl replace []⟩

/-- The parts of a text between commas that are not empty. -/
def parts (text : String) : List String := (text.splitOn ",").filter (· ≠ "")

/-- The filter of a text, every part of which has to be a directive. -/
def ofText (text : String) : Except Directive.Fault Filter := do
  return ofDirectives (← (parts text).mapM Directive.ofText)

/-- The directives of those parts that are directives. -/
def directivesAmong : List String → Except Directive.Fault (List Directive)
  | [] => .ok []
  | part :: rest =>
    match Directive.ofText part with
    | .ok directive => do return directive :: (← directivesAmong rest)
    | .error .malformed => directivesAmong rest
    | .error .cutCharacter => .error .cutCharacter

/-- Shows errors only. -/
def errorsOnly : Filter := { statics := [{ threshold := some .error }] }

/-- The filter of the directives among the parts of a text; where there are none, errors are shown. -/
def ofParts (text : String) : Except Directive.Fault Filter := do
  let directives ← directivesAmong (parts text)
  return if directives.isEmpty then errorsOnly else ofDirectives directives

/-- The variable that names a filter. -/
def nameVariable : String := "RUST_LOG"

/-- The level that is shown where nothing else is said. -/
def standardLevel : String := "info"

/-- The directive for reports of the transport, which talks much. -/
def quietTransport : Directive := { target := some "hyper", threshold := some .warn }

/-- The filter of a variable, or else that of a level. -/
def stated (variableText : Option String) (level : String) : Except Directive.Fault Filter :=
  match variableText.map ofText with
  | some (.ok filter) => .ok filter
  | some (.error .cutCharacter) => .error .cutCharacter
  | some (.error .malformed) => ofParts level
  | none => ofParts level

/-- The filter of a service; there is none if a part would have to be cut inside a character. -/
def choose (variableText : Option String) (level : String) : Option Filter :=
  (stated variableText level).toOption.map (·.add quietTransport)

/-- The texts of the directives. -/
def texts (filter : Filter) : List String := (filter.statics ++ filter.dynamics).map (·.text)

/-- Whether a report from this origin is shown. -/
def shows (filter : Filter) (origin : String) (event : Event) : Bool :=
  let applying := filter.statics.filter (·.applies origin event)
  let chosen := applying.foldl (fun best directive =>
    match best with
    | some other => if directive.moreSpecific other then some directive else best
    | none => some directive) none
  match chosen with
  | some directive => Threshold.shows directive.threshold event.level
  | none => false

end Filter
end Signet.Log
