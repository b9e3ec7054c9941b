import IngressGate.Address
import IngressGate.Address.Text
import IngressGate.Bytes
import IngressGate.Bytes.Lemmas
import IngressGate.Cli.Arguments
import IngressGate.Cli.FileTree
import IngressGate.Cli.Help
import IngressGate.Cli.Program
import IngressGate.Cli.Sample
import IngressGate.Counters
import IngressGate.Decision
import IngressGate.Event
import IngressGate.Event.Channel
import IngressGate.Event.Message
import IngressGate.Event.Observer
import IngressGate.Failure
import IngressGate.Frame.Checksum
import IngressGate.Frame.Ethernet
import IngressGate.Frame.Ipv4
import IngressGate.Frame.Ipv6
import IngressGate.Frame.Protocol
import IngressGate.Frame.Reader
import IngressGate.Frame.Transport
import IngressGate.Gate
import IngressGate.Log.Directive
import IngressGate.Log.Entry
import IngressGate.Log.Filter
import IngressGate.Log.Level
import IngressGate.Log.Pattern
import IngressGate.Log.Sink
import IngressGate.Main
import IngressGate.Proofs.Bytes.Offset
import IngressGate.Proofs.Decision.Fragment
import IngressGate.Proofs.Decision.Offsets
import IngressGate.Proofs.Decision.Stages
import IngressGate.Proofs.Frame.Chain
import IngressGate.Proofs.Frame.Headers
import IngressGate.Proofs.Frame.Ipv6
import IngressGate.Proofs.Frame.Reading
import IngressGate.Proofs.Gate.Reload
import IngressGate.Proofs.Gate.Traffic
import IngressGate.Proofs.Rule.History
import IngressGate.Proofs.Rule.Keys
import IngressGate.Proofs.Rule.Lookup
import IngressGate.Proofs.Rule.Store
import IngressGate.Proofs.Settings.Agreement
import IngressGate.Proofs.Settings.Application
import IngressGate.Proofs.Settings.Errors
import IngressGate.Ring
import IngressGate.Rule.Book
import IngressGate.Rule.Key
import IngressGate.Rule.ProtocolSet
import IngressGate.Rule.Table
import IngressGate.Settings
import IngressGate.Settings.Decode
import IngressGate.Settings.Review
import IngressGate.Targets
import IngressGate.Text.Blank
import IngressGate.Text.Bytes
import IngressGate.Text.Case
import IngressGate.Text.CaseData
import IngressGate.Text.Digits
import IngressGate.Text.Letter
import IngressGate.Text.LetterData
import IngressGate.Text.Quoted
import IngressGate.Text.ShapeData
import IngressGate.Toml.Grammar
import IngressGate.Toml.Real
import IngressGate.Toml.Value
import IngressGate.Verdict
import IngressGate.Proofs.Decision.Sample
import IngressGate.Proofs.Cli.Check
import IngressGate.Proofs.Decision.Course
import IngressGate.Proofs.Decision.Truncation
import IngressGate.Proofs.Event.Record
import IngressGate.Proofs.Decision.Explanation
import IngressGate.Proofs.Event.Conservation
import IngressGate.Proofs.Gate.Redirection
import IngressGate.Proofs.Gate.Serving
import IngressGate.Proofs.Event.Decoding
import IngressGate.Proofs.Gate.Locality
import IngressGate.Proofs.Gate.Mode
import IngressGate.Proofs.Gate.QueueCounters
import IngressGate.Proofs.Checked.Operations
import IngressGate.Proofs.Checked.Scan
import IngressGate.Proofs.Event.Parts
import IngressGate.Proofs.Checked.Headers
import IngressGate.Proofs.Checked.Message
import IngressGate.Proofs.Checked.Event
import IngressGate.Proofs.Checked.Gate
import IngressGate.Proofs.Checked.Classification
import IngressGate.Proofs.Decision.Governing
import IngressGate.Proofs.Gate.Granting
import IngressGate.Proofs.Gate.PortProtocols
import IngressGate.Proofs.Rule.Batch
import IngressGate.Proofs.Settings.Document
import IngressGate.Proofs.Settings.Duplicates
import IngressGate.Proofs.Gate.Provisioning
import IngressGate.Proofs.Frame.Position
import IngressGate.Proofs.Decision.Tag
import IngressGate.Proofs.Counters
import IngressGate.Proofs.Targets.History
import IngressGate.Proofs.Event.Observation
import IngressGate.Proofs.Frame.Reports
import IngressGate.Proofs.Decision.Wording
import IngressGate.Proofs.Frame.Inverse
import IngressGate.Proofs.Frame.Nesting
import IngressGate.Proofs.Counters.Listing
import IngressGate.Proofs.Frame.Checksum
import IngressGate.Proofs.Checked.Cursor
import IngressGate.Proofs.Frame.Stops
