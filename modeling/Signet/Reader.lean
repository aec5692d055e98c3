import Signet.Text.Utf8

/-! Readers take values off the front of a byte string. A failing reader leaves the input where the
failure arose, so a caller may look at what is left. -/

namespace Signet

/-- Reads a value off the front of the input, or fails at some place in it. -/
abbrev Reader (ε α : Type) := EStateM ε Bytes α

namespace Reader

variable {ε α : Type}

/-- The next byte, which stays in the input. -/
def peek : Reader ε (Option UInt8) := fun input => .ok input.head? input

/-- Takes the next byte, if there is one. -/
def next : Reader ε (Option UInt8) := fun input => .ok input.head? input.tail

/-- Skips the next byte, if there is one. -/
def skip : Reader ε Unit := fun input => .ok () input.tail

/-- Number of bytes left. -/
def left : Reader ε Nat := fun input => .ok input.length input

/-- Skips every byte at the front that satisfies the predicate. -/
def skipWhile (drop : UInt8 → Bool) : Reader ε Unit := fun input => .ok () (input.dropWhile drop)

/-- Runs `body`, then `finish` whether or not `body` failed; the first failure counts. -/
def closing (body : Reader ε α) (finish : Reader ε Unit) : Reader ε α := fun input =>
  match body input with
  | .ok value rest =>
    match finish rest with
    | .ok _ rest => .ok value rest
    | .error fault rest => .error fault rest
  | .error fault rest =>
    match finish rest with
    | .ok _ rest => .error fault rest
    | .error _ rest => .error fault rest

/-- Runs `body`; a failure is forgotten, and reading goes on where it arose. -/
def lenient (body : Reader ε α) : Reader ε (Option α) := fun input =>
  match body input with
  | .ok value rest => .ok (some value) rest
  | .error _ rest => .ok none rest

/-- The value read from the whole input, or the failure. -/
def run (body : Reader ε α) (input : Bytes) : Except ε α :=
  match body input with
  | .ok value _ => .ok value
  | .error fault _ => .error fault

end Reader
end Signet
