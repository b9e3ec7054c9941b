import IngressGate.Proofs.Decision.Sample
import IngressGate.Proofs.Gate.Reload
import IngressGate.Proofs.Settings.Agreement
import IngressGate.Proofs.Settings.LastEntry
/-!
# The check command tells the truth

`Settings.sampleVerdict` reads off the settings alone what becomes of a sample. The check command
puts the settings in force on a gate, builds a frame, lets the gate classify it, and shows what
comes of it: for settings without errors, it shows that verdict.
-/
namespace IngressGate

/-- The name of the protocol of a sample. -/
def Sample.name : Sample → String
  | tcp => "tcp"
  | udp => "udp"
  | icmp => "icmp"
  | icmpv6 => "icmpv6"

namespace Settings

/-! ## What the settings say -/

/-- Some of the names is that of the protocol of a sample, or stands for all protocols. -/
def Covers (names : List String) (sample : Sample) : Prop :=
  ∃ name ∈ names, Text.lowercase name = sample.name ∨ Text.lowercase name = "all"

instance (names : List String) (sample : Sample) : Decidable (Covers names sample) :=
  inferInstanceAs (Decidable (∃ name ∈ names, _))

/-- The queue for a sample that arrives on queue zero. -/
def sampleQueue (s : Settings) : UInt32 :=
  match s.classifier.redirect with
  | .fixed => s.classifier.redirectQueue
  | .arrival => 0

/-- The verdict on a sample by an entry with the given names. -/
def sampleRuled (s : Settings) (sample : Sample) (names : List String) : Verdict :=
  if Covers names sample then .redirect s.sampleQueue else .drop

/-- The verdict on a sample: by the last entry of its source, or else, if it goes to a port, by the
last entry of that port. -/
def sampleVerdict (s : Settings) (sample : Sample) (source : Address) (port : UInt16) : Verdict :=
  match (s.whitelist.filter (·.address = source)).getLast? with
  | some e => s.sampleRuled sample e.protocols
  | none =>
    if sample = .tcp ∨ sample = .udp then
      match (s.ports.filter (·.port = port)).getLast? with
      | some e => s.sampleRuled sample e.protocols
      | none => .pass
    else .pass

/-- The verdict, or what is wrong with a source of the other family. -/
def sampleAnswer (s : Settings) (sample : Sample) (source : Address) (port : UInt16) :
    Except Sample.Mismatch Verdict :=
  match sample.mismatch? source with
  | some m => .error m
  | none => .ok (s.sampleVerdict sample source port)

/-! ## What the rules say -/

variable {s : Settings} {sample : Sample} {names : List String} {set : ProtocolSet}

theorem permits_name_iff (name : String) (sample : Sample) :
    (∃ part, ProtocolSet.ofName? name = some part ∧ part.permits sample.protocol = true) ↔
      Text.lowercase name = sample.name ∨ Text.lowercase name = "all" := by
  simp only [ProtocolSet.ofName?]
  generalize Text.lowercase name = key
  -- The key is one of the five names or none of them; each case is evaluated for each sample.
  cases sample <;> split_ifs <;> simp_all [Sample.name] <;> decide

theorem permits_iff_covers (h : ProtocolSet.ofNames names = .ok set) (sample : Sample) :
    set.permits sample.protocol = true ↔ Covers names sample := by
  rw [ProtocolSet.permits_ofNames h]
  simp only [permits_name_iff, Covers]

/-- The rule of a key decides about a sample as the last entry of that key does. -/
theorem map_ruled_get? {r : Ruling} (h : s.ruling = .ok r) (k : Key) (sample : Sample) :
    (r.get? k).map (sample.ruled s.sampleQueue) =
      (lastNames? s.entries k).map (s.sampleRuled sample) := by
  rcases get?_addEntries h k with ⟨names, set, hnames, hset, hget⟩ | ⟨hnone, hget⟩
  · rw [hnames, hget, Option.map_some, Option.map_some]
    simp only [Sample.ruled, sampleRuled, permits_iff_covers hset]
  · rw [hnone, hget, Ruling.get?_empty]
    rfl

/-- The rules of settings say about a sample what the settings say. -/
theorem verdict_ruling {r : Ruling} (h : s.ruling = .ok r) (sample : Sample) (source : Address)
    (port : UInt16) :
    sample.verdict r.get? s.sampleQueue source port = s.sampleVerdict sample source port := by
  have haddress := map_ruled_get? h (.address source) sample
  have hports := map_ruled_get? h (.port port) sample
  rw [lastNames?_address, Option.map_map] at haddress
  rw [lastNames?_port, Option.map_map] at hports
  have hport : sample.hasPort = true ↔ sample = .tcp ∨ sample = .udp := by
    cases sample <;> decide
  rw [Sample.verdict, haddress, hports, sampleVerdict]
  cases (s.whitelist.filter (·.address = source)).getLast? with
  | some e => rfl
  | none =>
    simp only [hport, Option.map_none, Option.getD_none]
    cases (s.ports.filter (·.port = port)).getLast? <;> rfl

/-! ## What the gate does -/

/-- What the review does not object to is put in force. -/
theorem apply_ok_of_review (h : s.review.hasErrors = false) (g : Gate) :
    (g.apply s).answer = .ok () := by
  cases hanswer : (g.apply s).answer with
  | ok u => rfl
  | error e =>
    obtain ⟨text, htext, -⟩ := s.review_reports_iff.mpr ((g.apply_error_iff s).mp ⟨e, hanswer⟩)
    rw [errors_eq_nil_iff.mp h] at htext
    cases htext

/-- A gate with settings in force gives a sample frame the verdict of the settings. -/
theorem map_classify_frame (h : s.review.hasErrors = false) (g : Gate) (sample : Sample)
    (source : Address) (port : UInt16) :
    (sample.frame source port).map (fun frame => ((g.apply s).gate.classify frame 0).1) =
      s.sampleAnswer sample source port := by
  rw [sampleAnswer]
  cases hfit : sample.mismatch? source with
  | some m =>
    rw [Sample.frame_eq_error hfit]
    rfl
  | none =>
    have hok : (g.apply s).answer = .ok () := apply_ok_of_review h g
    obtain ⟨-, r, threshold, hfollows⟩ := Gate.follows_apply hok
    have hbook : (g.apply s).gate.book.get? = r.get? := funext hfollows.get?_eq
    have hqueue : (g.apply s).gate.mode.queue 0 = s.sampleQueue :=
      (inForce_apply h hok).consumerQueue_eq
    obtain ⟨frame, hframe, hverdict⟩ :=
      Sample.verdict_decideFrame hfit port r.get? s.sampleQueue
    rw [hframe, ← verdict_ruling hfollows.ruling_eq, ← hverdict, ← hbook, ← hqueue]
    rfl

end Settings

namespace Cli
variable {host : Host} {path : String} {s : Settings}

/-! ## What the command does -/

/-- What is written before a sample is tried: complaints about the log filter, the warnings of the
review, and what the log says when the settings are put in force. -/
def beforeSample (host : Host) (s : Settings) : Transcript :=
  let (sink, complaints) := Log.Sink.setUp host.filterText none
  { output := s.review.lines ++ sink.texts (Gate.apply {} s).log, errors := complaints }

/-- The outcome of trying a sample: the verdict is the last line, or the error is. -/
def sampleOutcome (t : Transcript) : Except Sample.Mismatch Verdict → Outcome
  | .ok v => ⟨0, { t with output := t.output ++ [v.text] }⟩
  | .error m => ⟨1, { t with errors := t.errors ++ ["[ERROR] " ++ m.message] }⟩

theorem Script.bind_of_ok {α β : Type} {x : Script α} {f : α → Script β} {t t' : Transcript} {a : α}
    (h : x t = .ok a t') : (x >>= f) t = f a t' := by
  simp [bind, EStateM.bind, h]

theorem Script.ofExcept_ok {ε α : Type} {wrap : ε → CommandError} (a : α) (t : Transcript) :
    Script.ofExcept wrap (.ok a) t = .ok a t := rfl

theorem setUpLog_eq (host : Host) (s : Option LogSettings) (t : Transcript) :
    setUpLog host s t = .ok (Log.Sink.setUp host.filterText s).1
      { t with errors := t.errors ++ (Log.Sink.setUp host.filterText s).2 } := rfl

theorem loadReviewed_eq (hload : Settings.load (host.content path) = .ok s)
    (h : s.review.hasErrors = false) (t : Transcript) :
    loadReviewed host path t = .ok s { t with output := t.output ++ s.review.lines } := by
  have hshown : Script.print s.review.lines t =
      .ok () { t with output := t.output ++ s.review.lines } := rfl
  rw [loadReviewed, hload, Script.bind_of_ok (Script.ofExcept_ok s t), Script.bind_of_ok hshown]
  simp only [h, Bool.false_eq_true, if_false]
  rfl

theorem applySettings_eq {g : Gate} (hok : (g.apply s).answer = .ok ()) (sink : Log.Sink)
    (t : Transcript) :
    applySettings sink g s t =
      .ok (g.apply s).gate { t with output := t.output ++ sink.texts (g.apply s).log } := by
  rw [applySettings, hok]
  rfl

/-- The command comes to what the gate does with a sample frame. -/
theorem perform_check (hload : Settings.load (host.content path) = .ok s)
    (h : s.review.hasErrors = false) (sample : Sample) (source : Address) (port : UInt16) :
    perform host (.check path source port sample) =
      sampleOutcome (beforeSample host s) ((sample.frame source port).map fun frame =>
        ((Gate.apply {} s).gate.classify frame 0).1) := by
  have hok : (Gate.apply {} s).answer = .ok () := Settings.apply_ok_of_review h {}
  have hbefore : check path source port sample host {} =
      (do
        let frame ← Script.ofExcept .badSample (sample.frame source port)
        Script.print [((Gate.apply {} s).gate.classify frame 0).1.text] : Script Unit)
        (beforeSample host s) := by
    rw [check, Script.bind_of_ok (setUpLog_eq host none _),
      Script.bind_of_ok (loadReviewed_eq hload h _),
      Script.bind_of_ok (applySettings_eq hok _ _)]
    rfl
  rw [perform, Command.script, hbefore]
  cases sample.frame source port with
  | ok frame => rfl
  | error m => rfl

/-- **The check command tells the truth about the settings.** For settings without errors, and every
sample, source and port, a source of the other family is refused. In every other case the settings
can be put in force on any gate, and the verdict of the gate on the sample frame, which the command
shows, is the one that the settings themselves give. -/
theorem check_tells_sampleAnswer (s : Settings) (h : s.review.hasErrors = false) (sample : Sample)
    (source : Address) (port : UInt16) :
    (∀ g : Gate, (g.apply s).answer = .ok () ∧
      (sample.frame source port).map (fun frame => ((g.apply s).gate.classify frame 0).1) =
        s.sampleAnswer sample source port) ∧
    ∀ (host : Host) (path : String), Settings.load (host.content path) = .ok s →
      perform host (.check path source port sample) =
        sampleOutcome (beforeSample host s) (s.sampleAnswer sample source port) := by
  refine ⟨fun g => ⟨Settings.apply_ok_of_review h g, ?_⟩, fun host path hload => ?_⟩
  · exact Settings.map_classify_frame h g sample source port
  · rw [perform_check hload h, Settings.map_classify_frame h]

/-- Settings with two entries of one source and one entry of a port. -/
def twiceListed : Settings where
  classifier := { redirect := .arrival }
  whitelist := [⟨.v4 (.ofBytes 10 0 0 5), ["all"]⟩, ⟨.v4 (.ofBytes 10 0 0 5), ["Tcp"]⟩]
  ports := [⟨53, ["udp"]⟩]

/-- A host whose only file has these settings. -/
def twiceListedHost : Host where
  content _ := .ok (String.toUTF8
    ("[classifier]\nredirect = \"arrival\"\n" ++
      "[[whitelist]]\naddress = \"10.0.0.5\"\nprotocols = [\"all\"]\n" ++
      "[[whitelist]]\naddress = \"10.0.0.5\"\nprotocols = [\"Tcp\"]\n" ++
      "[[ports]]\nport = 53\nprotocols = [\"udp\"]\n"))
  filterText := none
  capture _ := .error (.io .notPermitted)

theorem check_twiceListed :
    ((Gate.apply {} twiceListed).answer = .ok () ∧
      (Sample.frame .udp (.v4 (.ofBytes 10 0 0 6)) 53).map (fun frame =>
        ((Gate.apply {} twiceListed).gate.classify frame 0).1) = .ok (.redirect 0)) ∧
    perform twiceListedHost (.check "config.toml" (.v4 (.ofBytes 10 0 0 5)) 53 .udp) =
      sampleOutcome (beforeSample twiceListedHost twiceListed) (.ok .drop) ∧
    perform twiceListedHost (.check "config.toml" (.v4 (.ofBytes 10 0 0 5)) 53 .icmpv6) =
      sampleOutcome (beforeSample twiceListedHost twiceListed) (.error .icmpv6FromIpv4) :=
  have h : twiceListed.review.hasErrors = false := by decide +kernel
  have hload : Settings.load (twiceListedHost.content "config.toml") = .ok twiceListed := by
    decide +kernel
  have hport : twiceListed.sampleAnswer .udp (.v4 (.ofBytes 10 0 0 6)) 53 = .ok (.redirect 0) := by
    decide +kernel
  have hdrop : twiceListed.sampleAnswer .udp (.v4 (.ofBytes 10 0 0 5)) 53 = .ok .drop := by
    decide +kernel
  have hother : twiceListed.sampleAnswer .icmpv6 (.v4 (.ofBytes 10 0 0 5)) 53 =
      .error .icmpv6FromIpv4 := by decide +kernel
  ⟨hport ▸ (check_tells_sampleAnswer twiceListed h .udp (.v4 (.ofBytes 10 0 0 6)) 53).1 {},
    hdrop ▸ (check_tells_sampleAnswer twiceListed h .udp (.v4 (.ofBytes 10 0 0 5)) 53).2
      twiceListedHost "config.toml" hload,
    hother ▸ (check_tells_sampleAnswer twiceListed h .icmpv6 (.v4 (.ofBytes 10 0 0 5)) 53).2
      twiceListedHost "config.toml" hload⟩

end Cli

end IngressGate
