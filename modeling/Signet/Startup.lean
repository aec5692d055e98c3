import Signet.Address
import Signet.Authority
import Signet.Log.Filter
import Signet.Settings.Source

/-! How the two services start: settings are loaded and checked, an address is chosen, and whatever
stands in the way is reported and tells how the program ends. -/

namespace Signet

/-- A program that listens for requests. -/
inductive Service where
  | gateway
  | store
  deriving DecidableEq, Repr

namespace Service

/-- What reports name as their origin. -/
def origin : Service → String
  | gateway => "gateway"
  | store => "store"

/-- The report of a service that has stopped. -/
def stopped : Service → String
  | gateway => "gateway stopped"
  | store => "secret store stopped"

/-- The address that a text names. -/
def address (what text : String) : Except String Address :=
  match Address.ofText? text with
  | some address => .ok address
  | none => .error s!"bad {what} address {text}: {Address.syntaxFault}"

/-- What a service needs in order to listen, or why it cannot. -/
def prepare (service : Service) (settings : Settings) : Except String (Address × Option Authority) :=
  match service with
  | gateway => do
    let address ← address "gateway" settings.gatewayAddress
    match Authority.ofSettings settings with
    | .ok authority => return (address, some authority)
    | .error error => throw error.message
  | store => do
    return (← address "store" settings.storeAddress, none)

/-- What takes an address to listen on, and tells the address it has got. -/
abbrev Listener := Address → Except String Address

/-- The report of a gateway that is about to listen. -/
def gatewayReport (settings : Settings) (address : Address) : Log.Event :=
  ⟨.info, "gateway listening", [("addr", address.text), ("issuer", settings.issuer)]⟩

/-- The report of a store that listens. -/
def storeReport (address : Address) : Log.Event :=
  ⟨.info, "secret store listening", [("addr", address.text)]⟩

/-- Lets a service listen, and answers its address or what keeps it from listening. A gateway reports
that it listens before it has the address. -/
def listen (service : Service) (listener : Listener) (settings : Settings) :
    List Log.Event × Except String Address :=
  match service.prepare settings with
  | .error reason => ([], .error reason)
  | .ok (address, _) =>
    match service, listener address with
    | gateway, bound => ([gatewayReport settings address], bound)
    | store, .ok bound => ([storeReport bound], .ok bound)
    | store, .error reason => ([], .error reason)

/-- Reports, and what comes after them: the settings and the address of a service that listens, or
the exit code of a program that cannot. -/
structure Start where
  reports : List Log.Event
  outcome : Except UInt8 (Settings × Address)

/-- The end of a program after these reports. -/
def ended (code : UInt8) (reports : List Log.Event) (message reason : String) : Start :=
  ⟨reports ++ [⟨.error, message, [("error", reason)]⟩], .error code⟩

/-- The filter of reports that the surroundings ask for. -/
def filter? (environment : Settings.Environment) : Option Log.Filter :=
  Log.Filter.choose (environment Log.Filter.nameVariable) Log.Filter.standardLevel

/-- The exit code of a program that has to give up without a report. -/
def brokenOff : UInt8 := 101

/-- Starts a service with the settings of its surroundings. -/
def start (service : Service) (files : Settings.Files) (environment : Settings.Environment)
    (listener : Listener) : Start :=
  match filter? environment, Settings.load files environment with
  | none, _ => ⟨[], .error brokenOff⟩
  | some _, .error error => ended 2 [] "invalid configuration" error.message
  | some _, .ok settings =>
    match service.listen listener settings with
    | (reports, .ok address) => ⟨reports, .ok (settings, address)⟩
    | (reports, .error reason) => ended 1 reports service.stopped reason

/-- The line of a report: its message, and then each field. -/
def line (event : Log.Event) : String :=
  event.message ++ String.join (event.fields.map fun field => s!" {field.1}={field.2}")

/-- The reports of a service that the filter of its surroundings shows. -/
def shown (service : Service) (environment : Settings.Environment) (reports : List Log.Event) :
    List (Log.Level × String) :=
  match filter? environment with
  | none => []
  | some filter =>
    (reports.filter (filter.shows service.origin)).map fun event => (event.level, line event)

end Service
end Signet
