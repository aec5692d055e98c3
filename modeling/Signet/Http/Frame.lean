import Signet.Decimal.Parse
import Signet.Http

/-! Requests and replies as they follow each other in a stream of bytes: a first line, a line for
each header field, an empty line, and then as many bytes of body as a field announces. -/

namespace Signet.Http.Frame

/-- The bytes that end a line. -/
def lineEnd : Bytes := [13, 10]

/-- The field that announces how many bytes of body follow. -/
def lengthName : String := "content-length"

/-- What stands before a body: the words of the first line, and the fields. -/
structure Head where
  words : List String
  headers : List Header
  deriving DecidableEq, Repr

/-- Cuts bytes at every line feed, and drops the carriage return before it. -/
def lines : Bytes → List Bytes
  | [] => [[]]
  | byte :: rest =>
    if byte = 10 then [] :: lines rest
    else
      match lines rest with
      | line :: others =>
        if byte = 13 ∧ line = [] ∧ others ≠ [] then line :: others else (byte :: line) :: others
      | [] => [[byte]]

/-- The field in a line: a name, a colon, and a value behind blanks. -/
def header? (line : Bytes) : Option Header :=
  let name := line.takeWhile (· ≠ ascii ':')
  match line.drop name.length with
  | _ :: value => some ⟨Text.ofAscii name, value.dropWhile (· = ascii ' ')⟩
  | [] => none

/-- The head in some bytes, as far as the empty line. -/
def head? (bytes : Bytes) : Option Head :=
  match (lines bytes).takeWhile (· ≠ []) with
  | [] => none
  | first :: fields =>
    (fields.mapM header?).map fun headers =>
      ⟨((Text.ofAscii first).splitOn " "), headers⟩

/-- How many bytes of body follow a head, if that can be told. -/
def Head.bodyLength? (head : Head) : Option Nat :=
  match head.headers.find? (·.hasName lengthName) with
  | none => some 0
  | some field => (Decimal.parse? (Text.ofAscii field.value)).map UInt64.toNat

/-- The request with a head, unless it is a reply. -/
def Head.request? (head : Head) (body : Option Bytes) : Option Request :=
  match head.words with
  | method :: target :: _ => some ⟨method, target, head.headers, body⟩
  | _ => none

/-- The code of the reply with a head. -/
def Head.status? (head : Head) : Option Status :=
  match head.words with
  | _ :: code :: _ => (Decimal.parse? code).map fun number => ⟨number.toNat⟩
  | _ => none

/-- The bytes of a frame. -/
def written (first : String) (headers : List Header) (body : Bytes) : Bytes :=
  let field := fun header : Header => Text.utf8 s!"{header.name}: " ++ header.value ++ lineEnd
  Text.utf8 first ++ lineEnd ++ headers.flatMap field ++
    field ⟨lengthName, Text.utf8 (toString body.length)⟩ ++ lineEnd ++ body

/-- The frame of a reply. -/
def ofReply (reply : Reply) : Bytes :=
  written s!"HTTP/1.1 {reply.status.text}" reply.headers reply.body

/-- The frame of a request to a host, which the target names in full. -/
def ofRequest (host : String) (request : Request) : Bytes :=
  written s!"{request.method} http://{host}{request.target} HTTP/1.1" request.headers
    (request.body.getD [])

end Signet.Http.Frame
