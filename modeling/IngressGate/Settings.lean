import IngressGate.Address.Text
import IngressGate.Event
import IngressGate.Rule.Book
import IngressGate.Verdict
/-!
# Settings

What the settings file says, and the rules, the redirect mode and the event threshold that follow
from it.
-/
namespace IngressGate

/-- The layouts of log lines. -/
inductive LogLayout
  | pretty
  | compact
  | json
  deriving DecidableEq, Repr

/-- Which log entries are written and how. -/
structure LogSettings where
  level : Option String := none
  layout : LogLayout := .pretty
  deriving DecidableEq, Repr

/-- The two ways to choose the queue of a redirect. -/
inductive RedirectChoice
  | fixed
  | arrival
  deriving DecidableEq, Repr

/-- The settings of the classifier. -/
structure ClassifierSettings where
  interface : Option String := none
  redirect : RedirectChoice := .fixed
  redirectQueue : UInt32 := 0
  eventLevel : Option String := none
  eventCapacity : Nat := 4096
  deriving DecidableEq, Repr

/-- A rule about a source address. -/
structure WhitelistEntry where
  address : Address
  protocols : List String := []
  deriving DecidableEq, Repr

/-- A rule about a destination port. -/
structure PortEntry where
  port : UInt16
  protocols : List String := []
  deriving DecidableEq, Repr

/-- Everything that the settings file says. -/
structure Settings where
  logging : LogSettings := {}
  classifier : ClassifierSettings := {}
  whitelist : List WhitelistEntry := []
  ports : List PortEntry := []
  deriving DecidableEq, Repr

/-- The redirect mode of the settings. -/
def ClassifierSettings.redirectMode (s : ClassifierSettings) : RedirectMode :=
  match s.redirect with
  | .fixed => .fixed s.redirectQueue
  | .arrival => .arrival

/-- The event threshold of the settings. -/
def ClassifierSettings.eventThreshold (s : ClassifierSettings) :
    Except Level.Unknown (Option Level) :=
  match s.eventLevel with
  | none => .ok none
  | some text => (Level.ofText text).map some

/-- A settings entry with a name that stands for no protocols. -/
structure BadEntry where
  key : Key
  cause : ProtocolSet.UnknownProtocol
  deriving DecidableEq, Repr

/-- The wording of the error. -/
def BadEntry.message (e : BadEntry) : String :=
  match e.key with
  | .address a => s!"whitelist {a.text}: {e.cause.message}"
  | .port p => s!"ports {p}: {e.cause.message}"

namespace Settings

/-- The keys of all entries with their protocol names, in the order of the file. -/
def entries (s : Settings) : List (Key × List String) :=
  (s.whitelist.map fun e => (.address e.address, e.protocols)) ++
    s.ports.map fun e => (.port e.port, e.protocols)

/-- The set of protocols of an entry. -/
def entryRule (e : Key × List String) : Except BadEntry (Key × ProtocolSet) :=
  match ProtocolSet.ofNames e.2 with
  | .ok set => .ok (e.1, set)
  | .error cause => .error ⟨e.1, cause⟩

/-- The rules of a list of entries on top of `acc`, up to the first entry with an unknown name. -/
def addEntries (acc : Ruling) : List (Key × List String) → Except BadEntry Ruling
  | [] => .ok acc
  | e :: es =>
    match entryRule e with
    | .ok (key, set) => addEntries (acc.insert key set) es
    | .error bad => .error bad

/-- The rules of the settings; the last entry of a key counts. -/
def ruling (s : Settings) : Except BadEntry Ruling := addEntries {} s.entries

end Settings

end IngressGate
