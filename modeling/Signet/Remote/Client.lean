import Signet.Error
import Signet.Http
import Signet.Message

/-! Calls to a peer: a body is sent to a path, and a reply counts only if its code says that all is
well. -/

namespace Signet.Remote

open Http (Request Status)

/-- Why a call to a peer failed. -/
inductive Failure where
  /-- The request did not reach the peer, or its reply broke off. -/
  | request (detail : String)
  | status (code : Status)
  | encoding (detail : String)
  | decoding
  /-- The reply cannot be read on. Its reader breaks off, so nobody is left to hear of it. -/
  | abort
  deriving DecidableEq, Repr

namespace Failure

/-- The wording of each failure. -/
def message : Failure → String
  | request detail => s!"request error: {detail}"
  | status code => s!"unexpected status {code.text}"
  | encoding detail => s!"could not encode request: {detail}"
  | decoding | abort => "could not decode response"

/-- What a failed call to a store amounts to. A peer that blames the request does not understand it,
and neither is the peer understood if its reply is not read. -/
def toStoreError (failure : Failure) : StoreError :=
  match failure with
  | status code => if code.blamesRequest then .protocol failure.message else .unavailable failure.message
  | request _ => .unavailable failure.message
  | encoding _ | decoding | abort => .protocol failure.message

end Failure

/-- What comes back from a peer: the code of the reply and its body, unless that broke off. -/
structure Answer where
  status : Status
  body : Except String Bytes

/-- A peer, which changes with every request; a request that does not reach it has a reason. -/
structure Peer (σ : Type) where
  deliver : Request → σ → Except String Answer × σ

variable {σ α β : Type}

/-- The body of a reply that counts. -/
def Answer.counted (answer : Answer) : Except Failure Bytes :=
  if answer.status = .ok then
    match answer.body with
    | .ok bytes => .ok bytes
    | .error detail => .error (.request detail)
  else .error (.status answer.status)

/-- Sends a body and answers that of the reply. -/
def Peer.send [Message α] (peer : Peer σ) (encoding : Encoding) (method path : String) (body : α)
    (state : σ) : Except Failure Bytes × σ :=
  match peer.deliver ⟨method, path, [], some (encoding.encode body)⟩ state with
  | (.ok answer, state) => (answer.counted, state)
  | (.error detail, state) => (.error (.request detail), state)

/-- The value in a body. -/
def decoded [Message β] (encoding : Encoding) (bytes : Bytes) : Except Failure β :=
  match encoding.decode bytes with
  | .ok value => .ok value
  | .error .malformed => .error .decoding
  | .error .abort => .error .abort

/-- Whether whoever reads this reply breaks off. -/
def aborted : Except Failure β → Bool
  | .error .abort => true
  | _ => false

/-- Sends a body and reads that of the reply. -/
def Peer.call [Message α] [Message β] (peer : Peer σ) (encoding : Encoding) (method path : String)
    (body : α) (state : σ) : Except Failure β × σ :=
  match peer.send encoding method path body state with
  | (.ok bytes, state) => (decoded encoding bytes, state)
  | (.error failure, state) => (.error failure, state)

end Signet.Remote
