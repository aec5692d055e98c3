import Std.Time.DateTime.Timestamp
import Signet.Gateway.Service
import Signet.Http.Frame
import Signet.Remote.Store
import Signet.Remote.Verifier
import Signet.Startup

/-! The services as programs. A service takes its settings from the environment and reports to
standard error. Requests come in as frames on standard input and replies leave on standard output. A
request to a peer leaves there too, under the full name of its target, and the next frame that comes
in is the reply to it. -/

namespace Signet.Main

open Http (Frame.Head Reply Request Status)

/-- The streams of a service. -/
structure Streams where
  input : IO.FS.Stream
  output : IO.FS.Stream
  reports : IO.FS.Stream

/-- A service that runs. -/
structure Running where
  streams : Streams
  service : Service
  settings : Settings
  environment : Settings.Environment

/-- The variables of the environment that matter. -/
def readEnvironment : IO Settings.Environment := do
  let names := Settings.fileVariable :: Log.Filter.nameVariable ::
    Settings.overriding.map (·.name)
  let found ← names.mapM fun name => return (name, ← IO.getEnv name)
  return fun name => (found.lookup name).join

/-- What is said of a file that cannot be read. -/
def failureText : IO.Error → String
  | .noFileOrDirectory .. => Settings.noFile
  | .permissionDenied .. => "Permission denied (os error 13)"
  | .inappropriateType .. => "Is a directory (os error 21)"
  | error => error.toString

/-- The file of settings that the environment names. -/
def readFiles (environment : Settings.Environment) : IO Settings.Files := do
  match environment Settings.fileVariable with
  | none => return fun _ => .ok []
  | some path =>
    let content ←
      try pure (Except.ok (← IO.FS.readBinFile path).data.toList)
      catch error => pure (Except.error (failureText error))
    return fun _ => content

/-- Writes what the filter shows of some reports. -/
def printReports (reports : IO.FS.Stream) (service : Service) (environment : Settings.Environment)
    (events : List Log.Event) : IO Unit :=
  (service.shown environment events).forM fun line =>
    reports.putStrLn s!"{line.1.name} {service.origin}: {line.2}"

namespace Running

/-- Writes a frame. -/
def send (running : Running) (frame : Bytes) : IO Unit := do
  running.streams.output.write ⟨frame.toArray⟩
  running.streams.output.flush

/-- Whether the last of these bytes end a head; they are given in reverse order. -/
def endsHead : Bytes → Bool
  | 10 :: 10 :: _ => true
  | 10 :: 13 :: 10 :: _ => true
  | _ => false

/-- The bytes up to the end of a head, or up to the end of the stream. -/
partial def readHead (input : IO.FS.Stream) (reversed : Bytes) : IO Bytes := do
  match (← input.read 1).data.toList with
  | [byte] =>
    if endsHead (byte :: reversed) then return (byte :: reversed).reverse
    else readHead input (byte :: reversed)
  | _ => return reversed.reverse

/-- The next frame; its body is missing if it broke off. -/
def receive (running : Running) : IO (Option (Frame.Head × Option Bytes)) := do
  match Http.Frame.head? (← readHead running.streams.input []) with
  | none => return none
  | some head =>
    match head.bodyLength? with
    | none => return some (head, none)
    | some length =>
      let body := (← running.streams.input.read length.toUSize).data.toList
      return some (head, if body.length = length then some body else none)

/-- Sends a request to a peer and waits for the reply. -/
def exchange (running : Running) (host : String) (request : Request) :
    IO (Except String Remote.Answer) := do
  running.send (Http.Frame.ofRequest host request)
  match ← running.receive with
  | none => return .error "connection closed before message completed"
  | some (head, body) =>
    match head.status? with
    | none => return .error "no reply"
    | some status =>
      match body with
      | some bytes => return .ok ⟨status, .ok bytes⟩
      | none => return .ok ⟨status, .error "end of file before message length reached"⟩

/-- The request that a use of a peer makes. -/
def asked {α : Type} (use : Remote.Peer (Option Request) → Option Request → α × Option Request) :
    Option Request :=
  (use ⟨fun request _ => (.error "", some request)⟩ none).2

/-- Uses a peer once. -/
def consult {α : Type} (running : Running) (host : String)
    (use : Remote.Peer (Option Request) → Option Request → α × Option Request) : IO α := do
  let answer ←
    match asked use with
    | some request => running.exchange host request
    | none => pure (.error "no request")
  return (use ⟨fun _ state => (answer, state)⟩ none).1

/-- Writes reports. -/
def report (running : Running) (events : List Log.Event) : IO Unit :=
  printReports running.streams.reports running.service running.environment events

/-- Gives up what is being done. -/
def breakOff {α : Type} : IO α := throw (IO.userError "broken off")

/-- Makes a store call to the peer that keeps the secrets. An answer that comes too late is none, and
there is no going on with one that cannot be read on. -/
def callStore (running : Running) (call : StoreCall) (within : Span) :
    IO (Except AuthError call.Answer) := do
  let before ← IO.monoNanosNow
  let (answer, events, broken) ← running.consult running.settings.storeAddress fun peer state =>
    let link : Remote.Link (Option Request) := ⟨fun _ => peer, state⟩
    let outcome := SecretStore.answer link before call
    ((outcome.answer, outcome.reports, SecretStore.breaks link before call), outcome.after.state)
  if within < (← IO.monoNanosNow) - before then return .error .timeout
  if broken then breakOff
  running.report events
  return answer.mapError AuthError.store

/-- Random bytes, or why there are none to be had. There is no going on without room for them. -/
def fresh (length : Nat) : IO (Except String Secret) := do
  if Secret.greatestLength < length then breakOff
  try return .ok ⟨(← IO.getRandomBytes length.toUSize).data.toList⟩
  catch error => return .error error.toString

/-- The wall clock; before the epoch it stands at zero. -/
def now : IO Timestamp := do
  return UInt64.ofNat (← Std.Time.Timestamp.now).toSecondsSinceUnixEpoch.val.toNat

/-- The world answers the queries of operations. -/
def answer (running : Running) : (query : Query) → IO query.Answer
  | .fresh length => fresh length
  | .time => now
  | .store call within => running.callStore call within
  | .verification credential =>
    running.consult running.settings.verifierAddress fun peer state =>
      Remote.verify peer credential state
  | .report event => running.report [event]

/-- Runs an operation. -/
def perform {α : Type} (running : Running) : Operation α → IO α
  | .done value => return value
  | .ask query next => do running.perform (next (← running.answer query))

/-- Answers requests one after the other until no more come in. -/
partial def serve (running : Running) (handle : Request → IO Reply) : IO Unit := do
  match ← running.receive with
  | none => return
  | some (head, body) =>
    let reply ←
      match head.request? body with
      | some request => handle request
      | none => pure { status := .badRequest }
    running.send (Http.Frame.ofReply reply)
    running.serve handle

/-- Serves a gateway. A request at which it breaks off gets no other answer. -/
def serveGateway (running : Running) (authority : Authority) : IO Unit :=
  running.serve fun request => do
    try running.perform ((Gateway.mk authority .standard).handle request)
    catch _ => return { status := .internalError }

/-- Serves a store. What is due to be purged is purged before the next request. -/
def serveStore (running : Running) : IO Unit := do
  let started ← IO.monoNanosNow
  let state ← IO.mkRef (Store.empty, started)
  running.serve fun request => do
    let moment ← IO.monoNanosNow
    let (store, before) ← state.get
    let (events, purged) := store.purgeTicks started before moment
    let served := purged.handle moment request
    state.set (served.after, moment)
    running.report (events ++ served.reports)
    return served.reply.getD { status := .internalError }

end Running

/-- Starts a service and serves until its input ends. -/
def run (service : Service) : IO UInt32 := do
  let streams : Streams := ⟨← IO.getStdin, ← IO.getStdout, ← IO.getStderr⟩
  let environment ← readEnvironment
  let start := service.start (← readFiles environment) environment .ok
  printReports streams.reports service environment start.reports
  match start.outcome with
  | .error code => return code.toUInt32
  | .ok (settings, _) =>
    let running : Running := ⟨streams, service, settings, environment⟩
    match service.prepare settings with
    | .ok (_, some authority) => running.serveGateway authority
    | _ => running.serveStore
    return 0

end Signet.Main

/-- Starts the service that is named on the command line. -/
def main (args : List String) : IO UInt32 := do
  match args with
  | ["gateway"] => Signet.Main.run .gateway
  | ["store"] => Signet.Main.run .store
  | _ =>
    IO.eprintln "usage: signet gateway|store"
    return 64
