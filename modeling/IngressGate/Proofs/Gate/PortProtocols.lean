import IngressGate.Proofs.Gate.Arrivals
import IngressGate.Proofs.Gate.Granting
/-!
# Rules of ports look at two protocols only

A rule of a port applies to packets of the two protocols with ports only. So of the eight bits of
its set, six are dead: two gates that differ in nothing else treat all frames alike, and go on to do
so whatever operators and consumers do to both of them.
-/
namespace IngressGate

open Decision

namespace ProtocolSet

/-- The two sets of a key are the same, up to dead bits if the key is a port. -/
def SameAt : Key → ProtocolSet → ProtocolSet → Prop
  | .address _, a, b => a = b
  | .port _, a, b => SamePorts a b

theorem SameAt.refl (k : Key) (a : ProtocolSet) : SameAt k a a := by
  cases k with
  | address x => exact rfl
  | port p => exact rfl

end ProtocolSet

open ProtocolSet

namespace Gate
variable {g g' : Gate} {f : List UInt8} {queue : UInt32}

/-! ## Verdicts -/

/-- Two gates redirect to the same queues and have the same rules, up to dead bits in the rules of
ports. -/
structure SameLiveRules (g g' : Gate) : Prop where
  mode : g'.mode = g.mode
  rules : Related SameAt g.book.get? g'.book.get?

theorem permits_eq_of_applies {rules : Rules} {flow : Flow} {rule : Match} {a b : ProtocolSet}
    (hsame : SameAt (rule.key flow) a b) (happlies : Applies rules f flow rule a) :
    b.permits flow.protocol = a.permits flow.protocol := by
  cases rule with
  | source =>
    rw [Match.key, Endpoints.sourceKey.eq_def] at hsame
    have hab : a = b := by
      split at hsame
      · exact hsame
      · exact hsame
    rw [hab]
  | port => exact SamePorts.permits_eq hsame happlies.hasPorts

/-- Neither the verdict nor what is counted beside it depends on dead bits. -/
theorem SameLiveRules.decide_eq (h : SameLiveRules g g') (f : List UInt8) (queue : UInt32) :
    (g'.decide f queue).verdict = (g.decide f queue).verdict ∧
      (g'.decide f queue).isInvalid = (g.decide f queue).isInvalid := by
  rw [decide, decide, h.mode]
  obtain hsame | ⟨flow, rule, allowed, allowed', hat, happlies, happlies'⟩ :=
    h.rules.decideFrame_cases (g.mode.queue queue) f
  · rw [hsame]
    exact ⟨rfl, rfl⟩
  · rw [happlies.decideFrame_eq, happlies'.decideFrame_eq, Decision.apply, Decision.apply,
      permits_eq_of_applies hat happlies]
    split
    · exact ⟨rfl, rfl⟩
    · exact ⟨rfl, rfl⟩

/-! ## Runs -/

/-- Two gates have the same rules up to dead bits, and are in the same state but for the events. -/
structure SameCourse (g g' : Gate) : Prop where
  rules : Related SameAt g.book.get? g'.book.get?
  modeWord : g'.modeWord = g.modeWord
  targets : g'.targets = g.targets
  rings : g'.rings = g.rings
  counters : g'.counters = g.counters

end Gate

/-- A consumer of events does something. -/
def Operation.isAboutEvents : Operation → Bool
  | .take (.receiveFrames _ _) | .take (.drainRing _) | .take (.closeRing _) => false
  | .take _ => true
  | _ => false

namespace Gate

/-- An observer touches the events alone. -/
theorem exists_events_observe (g : Gate) :
    ∃ events, (g.take .observe).2 = { g with events := events } := by
  cases hevents : g.events with
  | none =>
    have hsame : (g.take .observe).2 = g := by simp [take, observe, hevents]
    exact ⟨g.events, hsame⟩
  | some c => exact ⟨some (Observer.drain c).2.2, by simp [take, observe, hevents]⟩

namespace SameCourse
variable {g g' : Gate} (h : SameCourse g g')
include h

theorem sameLiveRules : SameLiveRules g g' :=
  ⟨congrArg RedirectMode.ofWord h.modeWord, h.rules⟩

theorem classify (f : List UInt8) (queue : UInt32) :
    (g'.classify f queue).1 = (g.classify f queue).1 ∧
      SameCourse (g.classify f queue).2 (g'.classify f queue).2 := by
  obtain ⟨hverdict, hinvalid⟩ := h.sameLiveRules.decide_eq f queue
  refine ⟨hverdict, h.rules, h.modeWord, h.targets, h.rings, ?_⟩
  show countFinding (g'.decide f queue) g'.counters = countFinding (g.decide f queue) g.counters
  rw [countFinding, countFinding, hverdict, hinvalid, h.counters]

theorem dispatch (v : Verdict) :
    (g'.dispatch v).answer = (g.dispatch v).answer ∧
      SameCourse (g.dispatch v).gate (g'.dispatch v).gate := by
  have hanswer : g'.targets.dispatch v = g.targets.dispatch v := by rw [h.targets]
  refine ⟨hanswer, h.rules, h.modeWord, h.targets, h.rings, ?_⟩
  show (g'.targets.dispatch v).count g'.counters = (g.targets.dispatch v).count g.counters
  rw [hanswer, h.counters]

theorem carryOut (f : List UInt8) (d : Disposition RingHandle) :
    SameCourse (g.carryOut f d).1 (g'.carryOut f d).1 := by
  cases d with
  | deliver reason => exact h
  | discard => exact h
  | push q ring =>
    refine ⟨h.rules, h.modeWord, h.targets, ?_, h.counters⟩
    show (g'.rings.push ring f).2 = (g.rings.push ring f).2
    rw [h.rings]

theorem process (f : List UInt8) (queue : UInt32) :
    (g'.process f queue).answer = (g.process f queue).answer ∧
      SameCourse (g.process f queue).gate (g'.process f queue).gate := by
  let arrived (g : Gate) : Gate :=
    { g with counters := g.counters.arrive queue (UInt64.ofNat f.length) }
  let decided (g : Gate) : Step (Disposition RingHandle) :=
    ((arrived g).classify f queue).2.dispatch ((arrived g).classify f queue).1
  have harrived : SameCourse (arrived g) (arrived g') :=
    ⟨h.rules, h.modeWord, h.targets, h.rings, congrArg (Counters.arrive · queue _) h.counters⟩
  have hdecided : (decided g').answer = (decided g).answer ∧
      SameCourse (decided g).gate (decided g').gate := by
    obtain ⟨hverdict, hclassified⟩ := harrived.classify f queue
    simp only [decided, hverdict]
    exact hclassified.dispatch _
  have hgate (g : Gate) :
      (g.process f queue).gate = ((decided g).gate.carryOut f (decided g).answer).1 := rfl
  refine ⟨hdecided.1, ?_⟩
  rw [hgate, hgate, hdecided.1]
  exact hdecided.2.carryOut f _

/-- Frames do not tell the gates apart. -/
theorem pass (p : Passage) :
    (g'.pass p).1 = (g.pass p).1 ∧ SameCourse (g.pass p).2 (g'.pass p).2 := by
  cases p with
  | classify f queue =>
    obtain ⟨hverdict, hnext⟩ := h.classify f queue
    exact ⟨congrArg Passage.Decision.verdict hverdict, hnext⟩
  | dispatch v =>
    obtain ⟨hanswer, hnext⟩ := h.dispatch v
    exact ⟨congrArg Passage.Decision.disposition hanswer, hnext⟩
  | process f queue =>
    obtain ⟨hanswer, hnext⟩ := h.process f queue
    exact ⟨congrArg Passage.Decision.disposition hanswer, hnext⟩

/-- Settings that are put in force leave nothing of the rules before. -/
theorem apply (s : Settings) : SameCourse (g.apply s).gate (g'.apply s).gate := by
  have hanswer := answer_apply_congr s g' g
  obtain ⟨e, -, hrefused, hgate, -⟩ | ⟨b, threshold, hruling, -, hdone, hgate, -⟩ :=
    apply_cases s g
  · obtain ⟨e', -, -, hgate', -⟩ | ⟨b', -, -, -, hdone', -⟩ := apply_cases s g'
    · rw [hgate, hgate']
      exact h
    · rw [hrefused, hdone'] at hanswer
      cases hanswer
  · obtain ⟨e', -, hrefused', -⟩ | ⟨b', threshold', hruling', -, -, hgate', -⟩ :=
      apply_cases s g'
    · rw [hdone, hrefused'] at hanswer
      cases hanswer
    · have hbook : b' = b := Book.ruling_injective (Except.ok.inj (hruling'.symm.trans hruling))
      rw [hgate, hgate', hbook]
      exact ⟨.refl SameAt.refl b.get?, rfl, h.targets, h.rings, h.counters⟩

/-- Operators are told the same. -/
theorem change (c : Change) :
    (g'.change c).1 = (g.change c).1 ∧ SameCourse (g.change c).2 (g'.change c).2 := by
  cases c with
  | insertRule k v =>
    simp only [Gate.change, insertRule]
    obtain ⟨e, hinsert, hinsert'⟩ | ⟨b, b', hinsert, hinsert', hrules⟩ :=
      Book.insert_cases_of_related h.rules (SameAt.refl k v)
    · rw [hinsert, hinsert']
      exact ⟨rfl, h⟩
    · rw [hinsert, hinsert']
      exact ⟨rfl, hrules, h.modeWord, h.targets, h.rings, h.counters⟩
  | eraseRule k =>
    obtain ⟨hfound, hrules⟩ := Book.related_erase h.rules k
    refine ⟨?_, hrules, h.modeWord, h.targets, h.rings, h.counters⟩
    exact congrArg (fun found => Except.ok (Change.Report.erased found)) hfound
  | apply s =>
    have hanswer := answer_apply_congr s g' g
    exact ⟨by simp only [Gate.change, hanswer], h.apply s⟩
  | setThreshold threshold => exact ⟨rfl, h.rules, h.modeWord, h.targets, h.rings, h.counters⟩
  | setMode mode => exact ⟨rfl, h.rules, rfl, h.targets, h.rings, h.counters⟩
  | openRing queue capacity =>
    simp only [Gate.change, openRing, h.rings]
    exact ⟨trivial, h.rules, h.modeWord, h.targets, rfl, h.counters⟩
  | setTarget queue ring =>
    simp only [Gate.change, setTarget, h.targets]
    cases g.targets.set queue ring with
    | ok t => exact ⟨rfl, h.rules, h.modeWord, rfl, h.rings, h.counters⟩
    | error e => exact ⟨rfl, h⟩
  | clearTarget queue =>
    simp only [Gate.change, clearTarget, h.targets]
    cases g.targets.clear queue with
    | ok r => exact ⟨rfl, h.rules, h.modeWord, rfl, h.rings, h.counters⟩
    | error e => exact ⟨rfl, h⟩

theorem modifyRing (ring : RingHandle) (f : Ring → Ring) :
    SameCourse (g.modifyRing ring f) (g'.modifyRing ring f) :=
  ⟨h.rules, h.modeWord, h.targets, congrArg (Rings.modify · ring f) h.rings, h.counters⟩

theorem take (i : Intake) : SameCourse (g.take i).2 (g'.take i).2 := by
  cases i with
  | observe =>
    obtain ⟨events, hgate⟩ := g.exists_events_observe
    obtain ⟨events', hgate'⟩ := g'.exists_events_observe
    rw [hgate, hgate']
    exact ⟨h.rules, h.modeWord, h.targets, h.rings, h.counters⟩
  | receiveFrames ring count => exact h.modifyRing ring _
  | drainRing ring => exact h.modifyRing ring _
  | closeRing ring => exact h.modifyRing ring _
  | receiveEvent | drainEvents | takeLost | closeEvents =>
    exact ⟨h.rules, h.modeWord, h.targets, h.rings, h.counters⟩

/-- Consumers of frames take the same. -/
theorem yield_take {i : Intake} (hi : (Operation.take i).isAboutEvents = false) :
    (g'.take i).1 = (g.take i).1 := by
  cases i with
  | receiveFrames ring count => simp only [Gate.take, takeFrames, h.rings]
  | drainRing ring => simp only [Gate.take, takeFrames, h.rings]
  | closeRing ring => rfl
  | receiveEvent | drainEvents | takeLost | observe | closeEvents => cases hi

/-- **Whatever is done on both gates, they go on alike.** -/
theorem step (op : Operation) :
    SameCourse (g.step op).2 (g'.step op).2 ∧
      (op.isAboutEvents = false → (g'.step op).1 = (g.step op).1) := by
  cases op with
  | change c => exact ⟨(h.change c).2, fun _ => congrArg Outcome.changed (h.change c).1⟩
  | pass p => exact ⟨(h.pass p).2, fun _ => congrArg Outcome.passed (h.pass p).1⟩
  | take i => exact ⟨h.take i, fun hi => congrArg Outcome.taken (h.yield_take hi)⟩

theorem after (ops : List Operation) : SameCourse (g.after ops) (g'.after ops) := by
  induction ops generalizing g g' with
  | nil => exact h
  | cons op ops ih => exact ih (h.step op).1

end SameCourse

/-- What comes of the operations of a run, those of the consumers of events left out. -/
def courseOf (g : Gate) (ops : List Operation) : List (Operation × Outcome) :=
  (g.trace ops).filter fun x => !x.1.isAboutEvents

theorem SameCourse.courseOf_eq (h : SameCourse g g') (ops : List Operation) :
    g'.courseOf ops = g.courseOf ops := by
  induction ops generalizing g g' with
  | nil => rfl
  | cons op ops ih =>
    obtain ⟨hnext, hsame⟩ := h.step op
    have hrest := ih hnext
    rw [courseOf, courseOf] at hrest
    rw [courseOf, courseOf, trace, trace]
    cases hop : op.isAboutEvents with
    | true => simpa [hop] using hrest
    | false => simpa [hop, hsame hop] using hrest

/-- The rule of a port can be written over by one that differs in dead bits, which sets the gate on
no other course. -/
theorem sameCourse_insertRule {p : UInt16} {old new : ProtocolSet}
    (hold : g.book.get? (.port p) = some old) (hports : SamePorts old new) :
    (g.insertRule (.port p) new).answer = .ok () ∧
      SameCourse g (g.insertRule (.port p) new).gate := by
  obtain ⟨b, hinsert, -⟩ := Book.insert_accepted (v := new) (.inl (Option.isSome_of_eq_some hold))
  obtain ⟨hanswer, hgate⟩ := insertRule_of_ok hinsert
  rw [hgate]
  exact ⟨hanswer, Book.related_insert SameAt.refl hold hports hinsert, rfl, rfl, rfl, rfl⟩

/-- **In the rule of a port, only the two protocols with ports count.** Gates with the same mode and
the same rules, up to all other bits in the rules of ports, come to the same verdict on every frame.
To change such bits in the rule of a port is always possible, and makes no difference to what
becomes of any frame, however the run goes on. The bits of ICMP and of ICMPv6 are among them,
whether they are added or taken away. -/
theorem portRules_ignore_control (h : SameLiveRules g g') :
    (∀ f queue, (g'.classify f queue).1 = (g.classify f queue).1) ∧
    (∀ p old new, g.book.get? (.port p) = some old → SamePorts old new →
      let s := g.insertRule (.port p) new
      s.answer = .ok () ∧
        ∀ ops, s.gate.courseOf ops = g.courseOf ops ∧
          (s.gate.after ops).rings = (g.after ops).rings ∧
          (s.gate.after ops).counters = (g.after ops).counters) ∧
    ∀ a c, c ⊆ control → SamePorts a (a.union c) ∧ SamePorts a (a.without c) := by
  refine ⟨fun f queue => (h.decide_eq f queue).1, ?_, ?_⟩
  · intro p old new hold hports s
    obtain ⟨hanswer, hcourse⟩ := sameCourse_insertRule hold hports
    refine ⟨hanswer, fun ops => ?_⟩
    have hafter := hcourse.after ops
    exact ⟨hcourse.courseOf_eq ops, hafter.rings, hafter.counters⟩
  · intro a c hc
    exact ⟨samePorts_union a hc, samePorts_without a hc⟩

theorem portRules_ignore_control_queryFrame :
    let g := (tcpToNames.insertRule (.port 53) withPorts).gate
    let g' := (g.insertRule (.port 53) .all).gate
    SamePorts withPorts .all ∧ SameLiveRules g g' ∧ (g.classify queryFrame 3).1 = .redirect 3 ∧
      (g'.classify queryFrame 3).1 = .redirect 3 ∧
      g'.courseOf [.pass (.process queryFrame 3)] = g.courseOf [.pass (.process queryFrame 3)] := by
  intro g g'
  have hports : SamePorts withPorts .all := rfl
  have hrule : g.book.get? (.port 53) = some withPorts := rfl
  have hlive : SameLiveRules g g' := (sameCourse_insertRule hrule hports).2.sameLiveRules
  obtain ⟨hverdict, hchange, -⟩ := portRules_ignore_control hlive
  have hredirect : (g.classify queryFrame 3).1 = .redirect 3 := by decide +kernel
  exact ⟨hports, hlive, hredirect, (hverdict queryFrame 3).trans hredirect,
    ((hchange 53 withPorts .all hrule hports).2 _).1⟩

end Gate

end IngressGate
