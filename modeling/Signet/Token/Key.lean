import Signet.Json.Value

/-! Keys that headers of tokens may carry. No token here is checked with one, but a header whose key
is none is refused. A key is read whole first; then the members that keys of every kind have in
common are checked in reading order, and then whether the rest makes a key of one of four kinds. -/

namespace Signet.Token.Key

open Json (Fault Value)

/-- The algorithms that a key may be meant for. -/
def algorithms : List String :=
  ["HS256", "HS384", "HS512", "ES256", "ES384", "RS256", "RS384", "RS512", "PS256", "PS384", "PS512",
    "EdDSA", "RSA1_5", "RSA-OAEP", "RSA-OAEP-256"]

private def wantText (value : Value) : Except Fault Unit := do
  let _ ← value.toOption Value.toText

private def wantTexts (value : Value) : Except Fault Unit := do
  let _ ← value.toOption (Value.toList Value.toText)

private def wantAlgorithm (value : Value) : Except Fault Unit := do
  let _ ← value.toOption (Value.toName algorithms Value.isVoid)

/-- The members that keys of every kind may have, and what they hold if not null. -/
def commonMembers : List (String × (Value → Except Fault Unit)) := [
  ("use", wantText), ("key_ops", wantTexts), ("alg", wantAlgorithm), ("kid", wantText),
  ("x5u", wantText), ("x5c", wantTexts), ("x5t", wantText), ("x5t#S256", wantText)]

/-- Checks the common members, some of which have been seen. -/
def checkCommon : (seen : List String) → List (String × Value) → Except Fault Unit
  | _, [] => .ok ()
  | seen, (name, value) :: rest =>
    match commonMembers.lookup name with
    | none => checkCommon seen rest
    | some check =>
      if seen.contains name then .error (.repeatedMember name)
      else do
        check value
        checkCommon (name :: seen) rest

/-- The curves on which a key may be. -/
def curves : List String := ["P-256", "P-384", "P-521", "Ed25519"]

/-- What a member of a key of some kind holds. -/
inductive Content where
  | text
  | name (known : List String)

/-- Whether a value is what a member holds. -/
def Content.fits (content : Content) (value : Value) : Bool :=
  match content with
  | text => value.toText.isOk
  | name known => (value.toName known Value.isNull).isOk

/-- The members of each kind of keys: those on curves, pairs of large numbers, byte strings, and
pairs of byte strings. -/
def kinds : List (List (String × Content)) := [
  [("kty", .name ["EC"]), ("crv", .name curves), ("x", .text), ("y", .text)],
  [("kty", .name ["RSA"]), ("n", .text), ("e", .text)],
  [("kty", .name ["oct"]), ("k", .text)],
  [("kty", .name ["OKP"]), ("crv", .name curves), ("x", .text)]]

/-- Whether each member of a kind stands exactly once, and holds what it should. -/
def isOfKind (members : List (String × Value)) (kind : List (String × Content)) : Bool :=
  kind.all fun (name, content) =>
    match members.filter (·.1 = name) with
    | [(_, value)] => content.fits value
    | _ => false

/-- Checks that the members make a key. -/
def check (members : List (String × Value)) : Except Fault Unit := do
  checkCommon [] members
  if kinds.any (isOfKind members) then .ok () else .error .noKey

/-- Reads a key with at most `depth` values around each other inside. -/
def read (depth : Nat) : Reader Fault Unit := do
  match ← Json.peekWord with
  | none => throw .endInValue
  | some byte =>
    if byte = ascii '\x7b' then MonadExcept.ofExcept (check (← Json.map (Json.anyValue depth)))
    else Json.wrong "struct Jwk" byte

end Signet.Token.Key
