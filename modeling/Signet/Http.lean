import Signet.Text.Utf8

/-! Requests and replies between services, as far as they matter here: methods, paths, header fields,
bodies and the codes of replies. -/

namespace Signet.Http

/-- The code of a reply. -/
structure Status where
  code : Nat
  deriving DecidableEq, Repr

namespace Status

def ok : Status := ⟨200⟩
def badRequest : Status := ⟨400⟩
def unauthorized : Status := ⟨401⟩
def forbidden : Status := ⟨403⟩
def notFound : Status := ⟨404⟩
def internalError : Status := ⟨500⟩
def unavailable : Status := ⟨503⟩

/-- Codes and their names. -/
def names : List (Nat × String) := [
  (100, "Continue"), (101, "Switching Protocols"), (102, "Processing"),
  (200, "OK"), (201, "Created"), (202, "Accepted"), (203, "Non Authoritative Information"),
  (204, "No Content"), (205, "Reset Content"), (206, "Partial Content"), (207, "Multi-Status"),
  (208, "Already Reported"), (226, "IM Used"),
  (300, "Multiple Choices"), (301, "Moved Permanently"), (302, "Found"), (303, "See Other"),
  (304, "Not Modified"), (305, "Use Proxy"), (307, "Temporary Redirect"),
  (308, "Permanent Redirect"),
  (400, "Bad Request"), (401, "Unauthorized"), (402, "Payment Required"), (403, "Forbidden"),
  (404, "Not Found"), (405, "Method Not Allowed"), (406, "Not Acceptable"),
  (407, "Proxy Authentication Required"), (408, "Request Timeout"), (409, "Conflict"),
  (410, "Gone"), (411, "Length Required"), (412, "Precondition Failed"),
  (413, "Payload Too Large"), (414, "URI Too Long"), (415, "Unsupported Media Type"),
  (416, "Range Not Satisfiable"), (417, "Expectation Failed"), (418, "I'm a teapot"),
  (421, "Misdirected Request"), (422, "Unprocessable Entity"), (423, "Locked"),
  (424, "Failed Dependency"), (426, "Upgrade Required"), (428, "Precondition Required"),
  (429, "Too Many Requests"), (431, "Request Header Fields Too Large"),
  (451, "Unavailable For Legal Reasons"),
  (500, "Internal Server Error"), (501, "Not Implemented"), (502, "Bad Gateway"),
  (503, "Service Unavailable"), (504, "Gateway Timeout"), (505, "HTTP Version Not Supported"),
  (506, "Variant Also Negotiates"), (507, "Insufficient Storage"), (508, "Loop Detected"),
  (510, "Not Extended"), (511, "Network Authentication Required")]

/-- A code with its name. -/
def text (status : Status) : String :=
  let name := (names.lookup status.code).getD "<unknown status code>"
  s!"{status.code} {name}"

/-- Whether the code puts the blame on the request. -/
def blamesRequest (status : Status) : Bool := 400 ≤ status.code && status.code < 500

end Status

/-- A header field. -/
structure Header where
  name : String
  value : Bytes
  deriving DecidableEq, Repr

namespace Header

/-- Whether a byte may stand in the value of a field. -/
def isLegal (byte : UInt8) : Bool := byte = 9 || 32 ≤ byte && byte ≠ 127

/-- Whether a byte of a value is text. -/
def isReadable (byte : UInt8) : Bool := byte = 9 || 32 ≤ byte && byte < 127

/-- The value of a field, if it is text. -/
def readable? (header : Header) : Option Bytes :=
  if header.value.all isReadable then some header.value else none

/-- Names in any letter case name the same field. -/
def hasName (header : Header) (name : String) : Bool := header.name.map Char.toLower = name

end Header

/-- What stands behind the host of a target, if it names one. -/
def behindHost? : List Char → Option (List Char)
  | ':' :: '/' :: '/' :: rest =>
    some (rest.dropWhile fun char => char ≠ '/' && char ≠ '?' && char ≠ '#')
  | '/' :: _ => none
  | _ :: rest => behindHost? rest
  | [] => none

/-- What stands before the query. -/
def beforeQuery (target : List Char) : String :=
  String.ofList (target.takeWhile fun char => char ≠ '?' && char ≠ '#')

/-- The path of a request's target, without host and query. -/
def pathOf (target : String) : String :=
  match behindHost? target.toList with
  | none => beforeQuery target.toList
  | some rest => if beforeQuery rest = "" then "/" else beforeQuery rest

/-- A request to a service. -/
structure Request where
  method : String
  target : String
  headers : List Header
  /-- The body, unless it broke off. -/
  body : Option Bytes
  deriving DecidableEq, Repr

/-- The path of a request. -/
def Request.path (request : Request) : String := pathOf request.target

/-- What a service answers. -/
structure Reply where
  status : Status
  headers : List Header := []
  body : Bytes := []
  deriving DecidableEq, Repr

end Signet.Http
