import Signet.Json.Value

/-! Giving up on a value without giving up on what follows. -/

namespace Signet.Json

open Reader (lenient)

/-- A member that stands at most once and may hold anything, even what is no value. -/
def looseMember (name : String) : Member (List String) :=
  ⟨name, .nullable, (·.contains name), fun seen => do
    let _ ← lenient (anyValue (deepest - 1))
    return name :: seen⟩

/-- Reads an object in which members of these names stand at most once, and hold anything. -/
def looseRecord (kind : String) (names : List String) : Reader Fault Unit :=
  record kind (names.map looseMember) [] fun _ => .ok ()

end Signet.Json
