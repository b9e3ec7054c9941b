import IngressGate.Proofs.Decision.Governing
import IngressGate.Proofs.Gate.Locality
import IngressGate.Proofs.Rule.Protocols
/-!
# Granting more costs nothing

A gate that permits more protocols under the same keys redirects all that was redirected before and
lets pass all that passed. What it changes is the fate of frames that were dropped because the rule
that governs them lacked their protocol: these it redirects.
-/
namespace IngressGate

open Decision

namespace Gate
variable {g g' : Gate} {f : List UInt8} {queue : UInt32}

/-- The second gate redirects to the same queues, has rules for the same keys of all three tables,
and each of them permits at least the protocols that it permits on the first gate. -/
structure Grants (g g' : Gate) : Prop where
  mode : g'.mode = g.mode
  rules : Related (fun _ allowed allowed' => allowed ⊆ allowed') g.book.get? g'.book.get?

/-- A rule that exists can be written over by one that permits more. -/
theorem grants_insertRule {k : Key} {old new : ProtocolSet} (hold : g.book.get? k = some old)
    (hsubset : old ⊆ new) : Grants g (g.insertRule k new).gate := by
  obtain ⟨b, hinsert, -⟩ := Book.insert_accepted (v := new) (.inl (Option.isSome_of_eq_some hold))
  rw [(insertRule_of_ok hinsert).2]
  exact ⟨rfl, Book.related_insert (fun _ => ProtocolSet.subset_refl) hold hsubset hinsert⟩

/-- The rule that governs the frame lacks its protocol on the first gate and has it
on the second. -/
def IsGranted (g g' : Gate) (f : List UInt8) : Prop :=
  ∃ flow rule allowed allowed', Applies g.book.get? f flow rule allowed ∧
    Applies g'.book.get? f flow rule allowed' ∧ allowed.permits flow.protocol = false ∧
    allowed'.permits flow.protocol = true

theorem verdict_of_applies {flow : Flow} {rule : Match} {allowed : ProtocolSet}
    (h : Applies g.book.get? f flow rule allowed) :
    (g.classify f queue).1 =
      if allowed.permits flow.protocol then .redirect (g.mode.queue queue) else .drop :=
  h.verdict_decideFrame

theorem IsGranted.verdicts (hmode : g'.mode = g.mode) (h : IsGranted g g' f) (queue : UInt32) :
    (g.classify f queue).1 = .drop ∧ (g'.classify f queue).1 = .redirect (g.mode.queue queue) := by
  obtain ⟨flow, rule, allowed, allowed', happlies, happlies', hlacks, hhas⟩ := h
  rw [verdict_of_applies happlies, verdict_of_applies happlies', hlacks, hhas, hmode]
  exact ⟨rfl, rfl⟩

/-- More permission changes nothing about a frame, or it is what the frame was dropped
for lack of. -/
theorem Grants.verdict_cases (h : Grants g g') (f : List UInt8) (queue : UInt32) :
    (g'.classify f queue).1 = (g.classify f queue).1 ∨ IsGranted g g' f := by
  obtain hsame | ⟨flow, rule, allowed, allowed', hsubset, happlies, happlies'⟩ :=
    h.rules.decideFrame_cases (g.mode.queue queue) f
  · refine .inl ?_
    rw [classify, classify, decide, decide, h.mode, hsame]
  cases hold : allowed.permits flow.protocol with
  | true =>
    have hnew : allowed'.permits flow.protocol = true := ProtocolSet.permits_of_subset hsubset hold
    refine .inl ?_
    rw [verdict_of_applies happlies, verdict_of_applies happlies', hold, hnew, h.mode]
  | false =>
    cases hnew : allowed'.permits flow.protocol with
    | true => exact .inr ⟨flow, rule, allowed, allowed', happlies, happlies', hold, hnew⟩
    | false =>
      refine .inl ?_
      rw [verdict_of_applies happlies, verdict_of_applies happlies', hold, hnew]
      rfl

/-- **To grant more protocols never costs traffic.** The verdict on a frame stays what it was, or a
frame that was dropped is redirected to the queue of the mode; this happens exactly if the rule that
governs the frame lacked its protocol and now has it. So no redirect is lost, and what passes is the
same. -/
theorem grants_costs_nothing (h : Grants g g') (f : List UInt8) (queue : UInt32) :
    ((g'.classify f queue).1 = (g.classify f queue).1 ∨
      (g.classify f queue).1 = .drop ∧
        (g'.classify f queue).1 = .redirect (g.mode.queue queue)) ∧
    ((g'.classify f queue).1 ≠ (g.classify f queue).1 ↔ IsGranted g g' f) ∧
    (∀ q, (g.classify f queue).1 = .redirect q → (g'.classify f queue).1 = .redirect q) ∧
    ((g'.classify f queue).1 = .pass ↔ (g.classify f queue).1 = .pass) := by
  obtain hsame | hgranted := h.verdict_cases f queue
  · rw [hsame]
    refine ⟨.inl rfl, ?_, fun q hq => hq, Iff.rfl⟩
    constructor
    · intro hne
      exact absurd rfl hne
    · intro hgranted
      obtain ⟨hdrop, hredirect⟩ := hgranted.verdicts h.mode queue
      rw [hsame, hdrop] at hredirect
      cases hredirect
  · obtain ⟨hdrop, hredirect⟩ := hgranted.verdicts h.mode queue
    rw [hdrop, hredirect]
    refine ⟨.inr ⟨rfl, rfl⟩, iff_of_true ?_ hgranted, ?_, ?_⟩
    · intro heq
      cases heq
    · intro q hq
      cases hq
    · exact iff_of_false (fun hpass => by cases hpass) (fun hpass => by cases hpass)

/-- A gate that permits TCP alone to the port for names. -/
def tcpToNames : Gate := ((listening.setMode .arrival).insertRule (.port 53) .tcp).gate

theorem grants_costs_nothing_queryFrame :
    let g' := (tcpToNames.insertRule (.port 53) (.union .tcp .udp)).gate
    Grants tcpToNames g' ∧ (tcpToNames.classify queryFrame 3).1 = .drop ∧
      (g'.classify queryFrame 3).1 = .redirect 3 ∧ IsGranted tcpToNames g' queryFrame := by
  intro g'
  have hrule : tcpToNames.book.get? (.port 53) = some .tcp := rfl
  have hgrants : Grants tcpToNames g' := grants_insertRule hrule rfl
  obtain ⟨hcases, hiff, -⟩ := grants_costs_nothing hgrants queryFrame 3
  have hredirect : (g'.classify queryFrame 3).1 = .redirect 3 := by decide +kernel
  have hdrop : (tcpToNames.classify queryFrame 3).1 = .drop := by decide +kernel
  refine ⟨hgrants, hdrop, hredirect, hiff.mp ?_⟩
  rw [hdrop, hredirect]
  decide

end Gate

end IngressGate
