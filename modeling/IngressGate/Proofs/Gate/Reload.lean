import IngressGate.Proofs.Rule.Lookup
import IngressGate.Proofs.Settings.Application
/-!
# Putting settings in force is all or nothing

`Edit.apply` puts settings in force the way a running gate has to: it checks, then it replaces one
table after the other and sets the mode and the threshold, and what it has changed by the time of a
failure stays changed. It comes to the same as `Gate.apply`: nothing has been changed by then. So
settings are in force as a whole or not at all, and where they are, the past does not show.
-/
namespace IngressGate

/-! ## Changing a gate in place -/

/-- A program that changes a gate in place. A failure keeps the gate as it was by then. -/
abbrev Edit := EStateM Failure Gate

namespace Edit

/-- Goes on with a value, or fails. -/
def ofExcept {ε α : Type} (wrap : ε → Failure) : Except ε α → Edit α
  | .ok a => pure a
  | .error e => throw (wrap e)

/-- Fails unless a table has room for an assignment. -/
def checkRoom {κ : Type} (t : TableKind) (m : Assignment κ) : Edit Unit :=
  if m.size ≤ t.capacity then pure () else throw (.capacity ⟨t, t.capacity⟩)

/-- Replaces one table of the book, if the new rules have room in it. -/
def replaceTable {κ : Type} {t : TableKind} (m : Assignment κ)
    (put : Book → Table κ t t.capacity → Book) : Edit Unit := do
  let table ← ofExcept .capacity (Table.ofAssignment m)
  modify fun g => { g with book := put g.book table }

/-- Replaces the rules of all tables. The room in all of them is checked before
the first changes. -/
def replaceRules (r : Ruling) : Edit Unit := do
  checkRoom .ipv4Addresses r.ipv4
  checkRoom .ipv6Addresses r.ipv6
  checkRoom .ports r.ports
  replaceTable r.ipv4 fun b table => { b with ipv4 := table }
  replaceTable r.ipv6 fun b table => { b with ipv6 := table }
  replaceTable r.ports fun b table => { b with ports := table }

/-- Puts settings in force, in place. -/
def apply (s : Settings) : Edit Unit := do
  let ruling ← ofExcept (fun e => .config (.entry e)) s.ruling
  let threshold ← ofExcept (fun e => .config (.level e)) s.classifier.eventThreshold
  replaceRules ruling
  modify (·.setMode s.classifier.redirectMode)
  modify (·.setThreshold threshold)

variable {ε α β : Type} {x : Edit α} {f : α → Edit β} {g g' : Gate} {a : α} {e : Failure}

theorem bind_of_ok (h : x g = .ok a g') : (x >>= f) g = f a g' := by
  simp [bind, EStateM.bind, h]

theorem bind_of_error (h : x g = .error e g') : (x >>= f) g = .error e g' := by
  simp [bind, EStateM.bind, h]

theorem checkRoom_of_le {κ : Type} {t : TableKind} {m : Assignment κ} (h : m.size ≤ t.capacity) :
    checkRoom t m g = .ok () g := by
  rw [checkRoom, if_pos h]
  rfl

theorem checkRoom_of_lt {κ : Type} {t : TableKind} {m : Assignment κ} (h : t.capacity < m.size) :
    checkRoom t m g = .error (.capacity ⟨t, t.capacity⟩) g := by
  rw [checkRoom, if_neg (Nat.not_le_of_lt h)]
  rfl

theorem replaceTable_of_le {κ : Type} {t : TableKind} {m : Assignment κ}
    {put : Book → Table κ t t.capacity → Book} (h : m.size ≤ t.capacity) :
    replaceTable m put g = .ok () { g with book := put g.book ⟨m, h⟩ } := by
  have hm : (Table.ofAssignment m : Except _ (Table κ t t.capacity)) = .ok ⟨m, h⟩ :=
    Table.ofAssignment_ok_iff.mpr rfl
  rw [replaceTable, hm]
  rfl

/-- No table is replaced where some table has not the room for its rules. -/
theorem replaceRules_of_overfull {r : Ruling} {t : TableKind} (h : r.overfull? = some t) :
    replaceRules r g = .error (.capacity ⟨t, t.capacity⟩) g := by
  rcases r.overfull?_cases with ⟨ht, -⟩ | ⟨ht, h4⟩ | ⟨ht, h4, h6⟩ | ⟨ht, h4, h6, hp⟩
  · rw [ht] at h
    cases h
  · obtain rfl : TableKind.ipv4Addresses = t := Option.some.inj (ht.symm.trans h)
    exact bind_of_error (checkRoom_of_lt h4)
  · obtain rfl : TableKind.ipv6Addresses = t := Option.some.inj (ht.symm.trans h)
    rw [replaceRules, bind_of_ok (checkRoom_of_le h4), bind_of_error (checkRoom_of_lt h6)]
  · obtain rfl : TableKind.ports = t := Option.some.inj (ht.symm.trans h)
    rw [replaceRules, bind_of_ok (checkRoom_of_le h4), bind_of_ok (checkRoom_of_le h6),
      bind_of_error (checkRoom_of_lt hp)]

/-- Once all tables have been found to have room, replacing them one by one does not fail. -/
theorem replaceRules_of_ruling_eq (b : Book) :
    replaceRules b.ruling g = .ok () { g with book := b } := by
  have h4 : b.ruling.ipv4.size ≤ TableKind.capacity .ipv4Addresses := b.ipv4.size_le
  have h6 : b.ruling.ipv6.size ≤ TableKind.capacity .ipv6Addresses := b.ipv6.size_le
  have hp : b.ruling.ports.size ≤ TableKind.capacity .ports := b.ports.size_le
  rw [replaceRules, bind_of_ok (checkRoom_of_le h4), bind_of_ok (checkRoom_of_le h6),
    bind_of_ok (checkRoom_of_le hp), bind_of_ok (replaceTable_of_le h4),
    bind_of_ok (replaceTable_of_le h6), replaceTable_of_le hp]
  rfl

end Edit

namespace Settings

/-- Why settings are refused: for the first entry with an unknown name, or else for the event level,
or else for the first table that has not the room for its rules. -/
inductive Refusal (s : Settings) : Failure → Prop
  | entry {bad} : s.ruling = .error bad → Refusal s (.config (.entry bad))
  | level {r e} : s.ruling = .ok r → s.classifier.eventThreshold = .error e →
      Refusal s (.config (.level e))
  | room {r threshold t} : s.ruling = .ok r → s.classifier.eventThreshold = .ok threshold →
      r.overfull? = some t → Refusal s (.capacity ⟨t, t.capacity⟩)

end Settings

namespace Gate
variable {s : Settings}

/-- What comes of settings: they are refused, and the gate is as it was, or they are in force. -/
theorem apply_cases (s : Settings) (g : Gate) :
    (∃ e, s.Refusal e ∧ (g.apply s).answer = .error e ∧ (g.apply s).gate = g ∧
        Edit.apply s g = .error e g) ∨
      ∃ b threshold, s.ruling = .ok b.ruling ∧ s.classifier.eventThreshold = .ok threshold ∧
        (g.apply s).answer = .ok () ∧
        (g.apply s).gate =
          (setMode { g with book := b } s.classifier.redirectMode).setThreshold threshold ∧
        Edit.apply s g = .ok () (g.apply s).gate := by
  cases hruling : s.ruling with
  | error bad =>
    refine .inl ⟨_, .entry hruling, ?_⟩
    have hedit : Edit.apply s g = .error (.config (.entry bad)) g := by
      rw [Edit.apply, hruling]
      rfl
    simp only [apply, hruling, hedit, and_self]
  | ok r =>
    cases hthreshold : s.classifier.eventThreshold with
    | error e =>
      refine .inl ⟨_, .level hruling hthreshold, ?_⟩
      have hedit : Edit.apply s g = .error (.config (.level e)) g := by
        rw [Edit.apply, hruling, hthreshold]
        rfl
      simp only [apply, hruling, hthreshold, hedit, and_self]
    | ok threshold =>
      rcases Book.ofRuling_eq r with ⟨b, -, hbook, rfl⟩ | ⟨t, hlarge, hbook⟩
      · refine .inr ⟨b, threshold, rfl, rfl, ?_⟩
        have hedit : Edit.apply s g = .ok ()
            ((setMode { g with book := b } s.classifier.redirectMode).setThreshold threshold) := by
          rw [Edit.apply, hruling, hthreshold]
          exact Edit.bind_of_ok (Edit.replaceRules_of_ruling_eq b)
        simp only [apply, hruling, hthreshold, replaceRules, hbook, hedit, and_self]
      · refine .inl ⟨_, .room hruling hthreshold hlarge, ?_⟩
        have hedit : Edit.apply s g = .error (.capacity ⟨t, t.capacity⟩) g := by
          rw [Edit.apply, hruling, hthreshold]
          exact Edit.bind_of_error (x := Edit.replaceRules r) (Edit.replaceRules_of_overfull hlarge)
        simp only [apply, hruling, hthreshold, replaceRules, hbook, hedit, and_self]

/-- Two gates decide alike and answer all questions about their rules alike. -/
structure SameRules (g g' : Gate) : Prop where
  get?_eq : ∀ k, g.book.get? k = g'.book.get? k
  size_eq : ∀ t, g.book.size t = g'.book.size t
  mode_eq : g.mode = g'.mode

/-- Two gates have the same consumers, the same counts and the same events waiting or lost. -/
structure SameTraffic (g g' : Gate) : Prop where
  targets_eq : g.targets = g'.targets
  rings_eq : g.rings = g'.rings
  counters_eq : g.counters = g'.counters
  queue_eq : g.events.map (·.queue) = g'.events.map (·.queue)
  lost_eq : g.events.map (·.lost) = g'.events.map (·.lost)

/-- The event threshold, if there is a channel that has one. -/
def threshold? (g : Gate) : Option (Option Level) := g.events.map (·.threshold)

theorem apply_of_refusal (g : Gate) {e : Failure} (h : s.Refusal e) :
    (g.apply s).answer = .error e := by
  cases h with
  | entry hruling => rw [apply, hruling]
  | level hruling hthreshold => rw [apply, hruling, hthreshold]
  | room hruling hthreshold hlarge =>
    rw [apply, hruling, hthreshold]
    simp only [replaceRules, Book.ofRuling_of_overfull hlarge]

theorem apply_error_iff_refusal (s : Settings) (g : Gate) (e : Failure) :
    (g.apply s).answer = .error e ↔ s.Refusal e := by
  refine ⟨fun h => ?_, g.apply_of_refusal⟩
  rcases g.apply_cases s with ⟨e', hrefusal, hanswer, -⟩ | ⟨b, threshold, -, -, hanswer, -⟩
  · rw [hanswer] at h
    cases h
    exact hrefusal
  · rw [hanswer] at h
    cases h

/-- What settings come to does not depend on the gate. -/
theorem answer_apply_congr (s : Settings) (g g' : Gate) :
    (g.apply s).answer = (g'.apply s).answer := by
  cases hanswer : (g'.apply s).answer with
  | error e => exact g.apply_of_refusal ((apply_error_iff_refusal s g' e).mp hanswer)
  | ok u =>
    cases h : (g.apply s).answer with
    | ok u' => rfl
    | error e =>
      rw [g'.apply_of_refusal ((apply_error_iff_refusal s g e).mp h)] at hanswer
      cases hanswer

/-- Putting settings in force touches nothing that frames have left behind. -/
theorem sameTraffic_apply (s : Settings) (g : Gate) : SameTraffic (g.apply s).gate g := by
  rcases g.apply_cases s with ⟨e, -, -, hgate, -⟩ | ⟨b, threshold, -, -, -, hgate, -⟩
  · rw [hgate]
    exact ⟨rfl, rfl, rfl, rfl, rfl⟩
  · rw [hgate]
    refine ⟨rfl, rfl, rfl, ?_, ?_⟩
    · simp [setThreshold, setMode, Channel.setThreshold, Function.comp_def]
    · simp [setThreshold, setMode, Channel.setThreshold, Function.comp_def]

/-- Settings in force: the rules, the mode and the threshold are theirs. -/
structure Follows (g : Gate) (s : Settings) (r : Ruling) (threshold : Option Level) : Prop where
  ruling_eq : s.ruling = .ok r
  eventThreshold_eq : s.classifier.eventThreshold = .ok threshold
  get?_eq : ∀ k, g.book.get? k = r.get? k
  size_eq : ∀ t, g.book.size t = r.size t
  mode_eq : g.mode = .ofWord s.classifier.redirectMode.toWord
  threshold?_eq : ∀ old ∈ g.threshold?, old = threshold

theorem follows_apply {g : Gate} (h : (g.apply s).answer = .ok ()) :
    Edit.apply s g = .ok () (g.apply s).gate ∧
      ∃ r threshold, (g.apply s).gate.Follows s r threshold := by
  rcases g.apply_cases s with
    ⟨e, -, hanswer, -⟩ | ⟨b, threshold, hruling, hthreshold, -, hgate, hedit⟩
  · rw [hanswer] at h
    cases h
  · refine ⟨hedit, b.ruling, threshold, hruling, hthreshold, ?_, ?_, ?_, ?_⟩
    · intro k
      rw [hgate]
      exact b.get?_eq_ruling k
    · intro t
      rw [hgate]
      exact b.size_eq_ruling t
    · rw [hgate]
      rfl
    · rw [hgate]
      simp [threshold?, setThreshold, setMode, Channel.setThreshold]

/-- Gates with the same settings in force decide alike. -/
theorem Follows.congr {g g' : Gate} {r r' : Ruling} {threshold threshold' : Option Level}
    (h : g.Follows s r threshold) (h' : g'.Follows s r' threshold') :
    SameRules g g' ∧ threshold = threshold' := by
  obtain rfl : r = r' := Except.ok.inj (h.ruling_eq.symm.trans h'.ruling_eq)
  refine ⟨⟨fun k => ?_, fun t => ?_, ?_⟩, ?_⟩
  · rw [h.get?_eq, h'.get?_eq]
  · rw [h.size_eq, h'.size_eq]
  · rw [h.mode_eq, h'.mode_eq]
  · exact Except.ok.inj (h.eventThreshold_eq.symm.trans h'.eventThreshold_eq)

/-- **Settings are put in force as a whole or not at all, and the past does not show.** Refused
settings leave all rules, the mode and the threshold as they were, at whichever step they are
refused; settings in force are what the gate follows, whatever it followed before. The tables and
the settings may as well be written in place, one after the other: it comes to the same. What frames
have left behind is never touched. -/
theorem apply_all_or_nothing (s : Settings) (g : Gate) :
    (∀ e, (g.apply s).answer = .error e ↔ s.Refusal e) ∧
    (∀ e, (g.apply s).answer = .error e →
      SameRules (g.apply s).gate g ∧ (g.apply s).gate.threshold? = g.threshold? ∧
        Edit.apply s g = .error e (g.apply s).gate) ∧
    ((g.apply s).answer = .ok () →
      (∃ r threshold, (g.apply s).gate.Follows s r threshold) ∧
        Edit.apply s g = .ok () (g.apply s).gate ∧
        ∀ h : Gate, (h.apply s).answer = .ok () ∧
          SameRules (h.apply s).gate (g.apply s).gate ∧
          ∀ l ∈ (h.apply s).gate.threshold?, ∀ l' ∈ (g.apply s).gate.threshold?, l = l') ∧
    SameTraffic (g.apply s).gate g := by
  refine ⟨apply_error_iff_refusal s g, fun e herror => ?_, fun hok => ?_, sameTraffic_apply s g⟩
  · rcases g.apply_cases s with ⟨e', -, hanswer, hgate, hedit⟩ | ⟨b, threshold, -, -, hanswer, -⟩
    · rw [hanswer] at herror
      cases herror
      rw [hgate]
      exact ⟨⟨fun k => rfl, fun t => rfl, rfl⟩, rfl, hedit⟩
    · rw [hanswer] at herror
      cases herror
  · obtain ⟨hedit, r, threshold, hfollows⟩ := follows_apply hok
    refine ⟨⟨r, threshold, hfollows⟩, hedit, fun h => ?_⟩
    have hok' : (h.apply s).answer = .ok () := (answer_apply_congr s h g).trans hok
    obtain ⟨-, r', threshold', hfollows'⟩ := follows_apply hok'
    obtain ⟨hsame, hthreshold⟩ := hfollows'.congr hfollows
    refine ⟨hok', hsame, fun l hl l' hl' => ?_⟩
    rw [hfollows'.threshold?_eq l hl, hfollows.threshold?_eq l' hl', hthreshold]

/-- Settings whose second entry has a name that stands for no protocol. -/
def badSecondEntry : Settings where
  classifier := { redirect := .arrival, eventLevel := some "error" }
  ports := [⟨80, ["tcp"]⟩, ⟨22, ["gre"]⟩]

/-- A gate with a rule, a channel and a threshold. -/
def sshGate : Gate where
  book := { ports := ⟨⟨[(22, .tcp)], by decide⟩, by decide⟩ }
  events := some { Channel.ofCapacity 8 with threshold := some .warn, lost := 3 }

theorem sshGate_refuses_badSecondEntry :
    (sshGate.apply badSecondEntry).answer =
        .error (.config (.entry ⟨.port 22, ⟨"gre"⟩⟩)) ∧
      SameRules (sshGate.apply badSecondEntry).gate sshGate ∧
      (sshGate.apply { badSecondEntry with ports := [] }).answer = .ok () ∧
      SameRules (Gate.apply {} { badSecondEntry with ports := [] }).gate
        (sshGate.apply { badSecondEntry with ports := [] }).gate :=
  have herror : (sshGate.apply badSecondEntry).answer =
      .error (.config (.entry ⟨.port 22, ⟨"gre"⟩⟩)) := by decide +kernel
  have hok : (sshGate.apply { badSecondEntry with ports := [] }).answer = .ok () := by
    decide +kernel
  ⟨herror, ((apply_all_or_nothing badSecondEntry sshGate).2.1 _ herror).1, hok,
    (((apply_all_or_nothing _ sshGate).2.2.1 hok).2.2 {}).2.1⟩

end Gate

end IngressGate
