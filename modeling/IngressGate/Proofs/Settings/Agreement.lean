import IngressGate.Cli.Program
import IngressGate.Proofs.Decision.Stages
import IngressGate.Proofs.Settings.Errors
/-!
# Review and application agree

Settings are reviewed and put in force by two separate passes. They agree: what the review does not
object to can be put in force on every gate, and then works there with every queue that matters;
what cannot be put in force is exactly what the review reports an obstacle for.
-/
namespace IngressGate

/-! ## Queues in range -/

theorem RedirectMode.ofWord_toWord {m : RedirectMode} (h : m ≠ .fixed arrivalWord) :
    ofWord m.toWord = m := by
  cases m with
  | fixed q =>
    have hq : q ≠ arrivalWord := fun he => h (by rw [he])
    rw [toWord, ofWord, if_neg hq]
  | arrival => rfl

theorem Targets.set_of_lt {α : Type} (t : Targets α) {queue : UInt32} (target : α)
    (h : queue.toNat < queueCount) : ∃ t', t.set queue target = .ok t' :=
  ⟨_, dif_pos h⟩

/-- Only a redirect to a queue that does not exist is found out of range. -/
theorem Targets.dispatch_ne_outOfRange {α : Type} (t : Targets α) {v : Verdict}
    (h : ∀ queue, v = .redirect queue → queue.toNat < queueCount) (q : UInt32) :
    t.dispatch v ≠ .deliver (some (.outOfRange q)) := by
  intro hdispatch
  cases v with
  | pass => cases hdispatch
  | drop => cases hdispatch
  | redirect queue =>
    have hlt := h queue rfl
    rw [dispatch, get, dif_pos hlt] at hdispatch
    cases hslot : t.slots[queue.toNat] with
    | none =>
      rw [hslot] at hdispatch
      cases hdispatch
    | some target =>
      rw [hslot] at hdispatch
      cases hdispatch

namespace Gate
variable {g : Gate} {s : Settings} {queue : UInt32}

theorem setTarget_of_lt (ring : RingHandle) (h : queue.toNat < queueCount) :
    ∃ g', g.setTarget queue ring = .ok g' := by
  obtain ⟨targets, htargets⟩ := g.targets.set_of_lt ring h
  exact ⟨_, by rw [setTarget, htargets]; rfl⟩

theorem attachConsumer_of_lt (h : (Cli.consumerQueue g).toNat < queueCount) :
    ∃ r, Cli.attachConsumer g = .ok r := by
  obtain ⟨ring, g', hopen⟩ : ∃ ring g', g.openRing (Cli.consumerQueue g) Cli.consumerCapacity =
      (ring, g') := ⟨_, _, rfl⟩
  obtain ⟨g'', hset⟩ := g'.setTarget_of_lt ring h
  exact ⟨(ring, g''), by simp only [Cli.attachConsumer, if_pos h, hopen, hset]⟩

/-- A redirect goes to the queue that the mode gives. -/
theorem eq_of_classify_redirect {frame : List UInt8} {arrivalQueue q : UInt32}
    (h : (g.classify frame arrivalQueue).1 = .redirect q) : q = g.mode.queue arrivalQueue :=
  eq_of_decideFrame_redirect h

theorem mode_apply (h : (g.apply s).answer = .ok ())
    (hmode : s.classifier.redirectMode ≠ .fixed RedirectMode.arrivalWord) :
    (g.apply s).gate.mode = s.classifier.redirectMode := by
  obtain ⟨r, threshold, g', -, -, -, hgate⟩ := apply_ok h
  rw [hgate]
  exact RedirectMode.ofWord_toWord hmode

end Gate

namespace Settings
variable {s : Settings} {g : Gate}

theorem errors_eq_nil_iff : s.review.hasErrors = false ↔ s.review.errors = [] := by
  simp [Review.hasErrors]

/-- The review insists on a queue that exists, whether or not the mode has a fixed one. -/
theorem redirectQueue_lt (h : s.review.hasErrors = false) :
    s.classifier.redirectQueue.toNat < queueCount := by
  by_contra hnot
  obtain ⟨text, htext⟩ : ∃ text, errorRemark text ∈ reviewClassifier s.classifier := by
    rw [reviewClassifier, if_neg hnot]
    exact ⟨_, List.mem_cons_self⟩
  have hremark : errorRemark text ∈ s.remarks := by
    simp only [remarks, List.mem_append, htext, true_or, or_true]
  have herror : text ∈ s.review.errors :=
    Review.mem_errors_ofRemarks.mpr ⟨errorRemark text, hremark, rfl, rfl⟩
  rw [errors_eq_nil_iff.mp h] at herror
  cases herror

theorem redirectMode_ne (h : s.classifier.redirectQueue.toNat < queueCount) :
    s.classifier.redirectMode ≠ .fixed RedirectMode.arrivalWord := by
  intro hword
  rw [ClassifierSettings.redirectMode] at hword
  split at hword
  · rw [RedirectMode.fixed.inj hword] at h
    exact absurd h (by decide)
  · cases hword

/-- Settings are in force on a gate: its mode is theirs, its consumer can be attached to the queue
of that mode, and with a fixed queue no redirect leaves the range of the queues. -/
structure InForce (s : Settings) (g : Gate) : Prop where
  mode_eq : g.mode = s.classifier.redirectMode
  consumerQueue_eq : Cli.consumerQueue g =
    match s.classifier.redirect with
    | .fixed => s.classifier.redirectQueue
    | .arrival => 0
  consumerQueue_lt : (Cli.consumerQueue g).toNat < 64
  setTarget_ok : ∀ ring, ∃ g', g.setTarget (Cli.consumerQueue g) ring = .ok g'
  attachConsumer_ok : ∃ r, Cli.attachConsumer g = .ok r
  dispatch_ne : s.classifier.redirect = .fixed →
    ∀ (targets : Targets RingHandle) (frame : List UInt8) (arrivalQueue q : UInt32),
      targets.dispatch (g.classify frame arrivalQueue).1 ≠ .deliver (some (.outOfRange q))

theorem inForce_apply (h : s.review.hasErrors = false) (hok : (g.apply s).answer = .ok ()) :
    s.InForce (g.apply s).gate := by
  have hqueue : s.classifier.redirectQueue.toNat < queueCount := redirectQueue_lt h
  have hmode : (g.apply s).gate.mode = s.classifier.redirectMode :=
    Gate.mode_apply hok (redirectMode_ne hqueue)
  have hconsumer : Cli.consumerQueue (g.apply s).gate =
      match s.classifier.redirect with
      | .fixed => s.classifier.redirectQueue
      | .arrival => 0 := by
    rw [Cli.consumerQueue, hmode, ClassifierSettings.redirectMode]
    cases s.classifier.redirect <;> rfl
  have hlt : (Cli.consumerQueue (g.apply s).gate).toNat < queueCount := by
    rw [hconsumer]
    split
    · exact hqueue
    · decide
  refine ⟨hmode, hconsumer, hlt, fun ring => Gate.setTarget_of_lt ring hlt,
    Gate.attachConsumer_of_lt hlt, fun hfixed targets frame arrivalQueue q => ?_⟩
  refine targets.dispatch_ne_outOfRange (fun queue hverdict => ?_) q
  have hto : queue = s.classifier.redirectQueue := by
    rw [Gate.eq_of_classify_redirect hverdict, hmode, ClassifierSettings.redirectMode, hfixed]
    rfl
  rw [hto]
  exact hqueue

/-- **The review and the application of settings agree.** Settings without errors can be put in
force on every gate. Settings that cannot be put in force are those with an error about something
else than the redirect queue and the event capacity: a protocol or a level without meaning, or more
different keys than a table has room for. -/
theorem review_agrees_with_apply (s : Settings) (g : Gate) :
    (s.review.hasErrors = false →
      (g.apply s).answer = .ok () ∧ s.InForce (g.apply s).gate) ∧
    ((∃ e, (g.apply s).answer = .error e) ↔
      ∃ text ∈ s.review.errors, Review.IsObstacle text) ∧
    ((∃ e, (g.apply s).answer = .error e) ↔
      (∃ e ∈ s.entries, ProtocolSet.HasUnknown e.2) ∨
      (∃ text, s.classifier.eventLevel = some text ∧
        Text.lowercase text ∉ Level.knownNames) ∨
      1024 < (s.keys .ipv4Addresses).card ∨ 1024 < (s.keys .ipv6Addresses).card ∨
      128 < (s.keys .ports).card) := by
  have happly := g.apply_error_iff s
  have hreview := s.review_reports_iff
  refine ⟨fun h => ?_, happly.trans hreview.symm, ?_⟩
  · have hok : (g.apply s).answer = .ok () := by
      cases hanswer : (g.apply s).answer with
      | ok u => rfl
      | error e =>
        obtain ⟨text, htext, -⟩ := hreview.mpr (happly.mp ⟨e, hanswer⟩)
        rw [errors_eq_nil_iff.mp h] at htext
        cases htext
    exact ⟨hok, inForce_apply h hok⟩
  · rw [happly, Obstructed, TableKind.exists_iff]
    rfl

/-- Settings with rules for all three tables, one of them given twice, and the last queue. -/
def threeTables : Settings where
  classifier := { redirectQueue := 63, eventLevel := some "WARN" }
  whitelist := [⟨.v4 ⟨#v[10, 0, 0, 5]⟩, ["Tcp"]⟩, ⟨.v6 ⟨Vector.replicate 16 0⟩, ["all"]⟩,
    ⟨.v4 ⟨#v[10, 0, 0, 5]⟩, []⟩]
  ports := [⟨53, ["udp", "tcp"]⟩]

theorem threeTables_inForce :
    threeTables.review.hasErrors = false ∧
      ((Gate.setMode {} .arrival).apply threeTables).answer = .ok () ∧
      threeTables.InForce ((Gate.setMode {} .arrival).apply threeTables).gate :=
  have h : threeTables.review.hasErrors = false := by decide +kernel
  ⟨h, (review_agrees_with_apply threeTables (Gate.setMode {} .arrival)).1 h⟩

end Settings

end IngressGate
