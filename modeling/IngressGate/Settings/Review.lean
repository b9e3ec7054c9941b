import IngressGate.Log.Level
import IngressGate.Settings
import IngressGate.Targets
/-!
# Reviewing settings

`Settings.review` lists everything that is wrong with settings: errors, with which they cannot be
used, and warnings. A duplicate entry is a warning, and counts once against the capacities.
-/
namespace IngressGate

/-- Something to be said about settings. -/
structure Remark where
  isError : Bool
  text : String
  deriving DecidableEq, Repr

/-- The warnings and the errors of a review, each in their order. -/
structure Review where
  warnings : List String := []
  errors : List String := []
  deriving DecidableEq, Repr

namespace Review

/-- The review that remarks make. -/
def ofRemarks (rs : List Remark) : Review where
  warnings := (rs.filter (!·.isError)).map (·.text)
  errors := (rs.filter (·.isError)).map (·.text)

/-- Whether there is an error. -/
def hasErrors (r : Review) : Bool := !r.errors.isEmpty

/-- The lines that show a review, warnings first. -/
def lines (r : Review) : List String :=
  r.warnings.map ("[WARN] " ++ ·) ++ r.errors.map ("[ERROR] " ++ ·)

end Review

namespace Settings

/-- A remark that forbids the use of the settings. -/
def errorRemark (text : String) : Remark := ⟨true, text⟩

/-- A remark that does not. -/
def warningRemark (text : String) : Remark := ⟨false, text⟩

/-- The remarks on the log settings. -/
def reviewLogging (s : LogSettings) : List Remark :=
  match s.level with
  | none => []
  | some level =>
    if (Log.levelOfText? level).isSome then []
    else [warningRemark s!"logging.level: unknown level '{level}', using info"]

/-- The remarks on the classifier settings. -/
def reviewClassifier (s : ClassifierSettings) : List Remark :=
  (if s.redirectQueue.toNat < queueCount then []
    else [errorRemark
      s!"classifier.redirect_queue: {s.redirectQueue} out of range (0-{queueCount - 1})"]) ++
  (if s.eventCapacity = 0 then [errorRemark "classifier.event_capacity: must be at least 1"]
    else []) ++
  (match s.eventLevel with
    | none => []
    | some level =>
      match Level.ofText level with
      | .ok _ => []
      | .error _ => [errorRemark
        s!"classifier.event_level: unknown level '{level}' (debug, info, warn, error)"]) ++
  (if s.interface.isNone then
    [warningRemark "classifier.interface: not specified, `run` requires --interface"] else [])

/-- The remarks on the protocol names of an entry. -/
def reviewProtocols (what : String) (protocols : List String) : List Remark :=
  match ProtocolSet.ofNames protocols with
  | .ok set =>
    if set.isEmpty then
      [warningRemark s!"{what}: no protocols listed, matching traffic will be dropped"]
    else []
  | .error e => [errorRemark s!"{what}: {e.message}"]

/-- The remarks on the entries from number `i` on, behind entries with the addresses `seen`. -/
def reviewWhitelist : (i : Nat) → (seen : List Address) → List WhitelistEntry → List Remark
  | _, _, [] => []
  | i, seen, e :: es =>
    let what := s!"whitelist[{i}] ({e.address.text})"
    reviewProtocols what e.protocols ++
      (if e.address ∈ seen then
        warningRemark s!"{what}: duplicate address, last entry wins" ::
          reviewWhitelist (i + 1) seen es
      else reviewWhitelist (i + 1) (e.address :: seen) es)

/-- The values without repetitions. -/
def distinct {α : Type} [DecidableEq α] (xs : List α) : List α :=
  xs.foldl (fun seen x => if x ∈ seen then seen else x :: seen) []

/-- The IPv4 addresses among addresses. -/
def ipv4Only (xs : List Address) : List Address := xs.filter fun | .v4 _ => true | .v6 _ => false

/-- The IPv6 addresses among addresses. -/
def ipv6Only (xs : List Address) : List Address := xs.filter fun | .v4 _ => false | .v6 _ => true

/-- The remarks on the number of addresses. -/
def reviewWhitelistSize (es : List WhitelistEntry) : List Remark :=
  let addresses := distinct (es.map (·.address))
  let v4 := (ipv4Only addresses).length
  let v6 := (ipv6Only addresses).length
  let room4 := TableKind.capacity .ipv4Addresses
  let room6 := TableKind.capacity .ipv6Addresses
  (if room4 < v4 then
    [errorRemark s!"whitelist: {v4} IPv4 addresses exceed capacity {room4}"] else []) ++
  (if room6 < v6 then
    [errorRemark s!"whitelist: {v6} IPv6 addresses exceed capacity {room6}"] else [])

/-- The remark on a port entry that permits ICMP expressly. -/
def reviewIcmp (what : String) (protocols : List String) : List Remark :=
  match ProtocolSet.ofNames protocols with
  | .ok set =>
    if set ≠ .all ∧ set.intersects (ProtocolSet.icmp.union .icmpv6) then
      [warningRemark s!"{what}: ICMP never reaches port rules, only tcp/udp apply"]
    else []
  | .error _ => []

/-- The remarks on the entries from number `i` on, behind entries with the ports `seen`. -/
def reviewPorts : (i : Nat) → (seen : List UInt16) → List PortEntry → List Remark
  | _, _, [] => []
  | i, seen, e :: es =>
    let what := s!"ports[{i}] (port {e.port})"
    reviewProtocols what e.protocols ++
      (if e.port ∈ seen then [warningRemark s!"{what}: duplicate port, last entry wins"] else []) ++
      reviewIcmp what e.protocols ++ reviewPorts (i + 1) (e.port :: seen) es

/-- The remark on the number of ports. -/
def reviewPortsSize (es : List PortEntry) : List Remark :=
  let n := (distinct (es.map (·.port))).length
  let room := TableKind.capacity .ports
  if room < n then [errorRemark s!"ports: {n} rules exceed capacity {room}"] else []

/-- All remarks on settings, in order. -/
def remarks (s : Settings) : List Remark :=
  reviewLogging s.logging ++ reviewClassifier s.classifier ++
    reviewWhitelist 0 [] s.whitelist ++ reviewWhitelistSize s.whitelist ++
    reviewPorts 0 [] s.ports ++ reviewPortsSize s.ports

/-- What is wrong with settings. -/
def review (s : Settings) : Review := .ofRemarks s.remarks

end Settings

end IngressGate
