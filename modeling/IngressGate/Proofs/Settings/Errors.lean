import IngressGate.Proofs.Settings.Application
import IngressGate.Settings.Review
/-!
# The errors of a review

The errors that a review reports are of two kinds. Those about the redirect queue and about the
event capacity concern a running program; all others are obstacles, which keep settings from being
put in force. A review reports an obstacle exactly if there is one.
-/
namespace IngressGate

namespace Review

/-- A text begins with the name of a field. -/
def IsAbout (field text : String) : Prop := (field ++ ":").toList <+: text.toList

/-- An error about something else than the redirect queue and the event capacity. -/
def IsObstacle (text : String) : Prop :=
  ¬ IsAbout "classifier.redirect_queue" text ∧ ¬ IsAbout "classifier.event_capacity" text

theorem mem_errors_ofRemarks {rs : List Remark} {text : String} :
    text ∈ (ofRemarks rs).errors ↔ ∃ r ∈ rs, r.isError = true ∧ r.text = text := by
  simp [ofRemarks, and_assoc]

end Review

namespace Settings

open Review

/-! ## Remarks that report obstacles -/

/-- Some of the remarks reports an obstacle. -/
def ReportsObstacle (rs : List Remark) : Prop := ∃ r ∈ rs, r.isError = true ∧ IsObstacle r.text

@[simp] theorem reportsObstacle_nil : ¬ ReportsObstacle [] := by simp [ReportsObstacle]

@[simp] theorem reportsObstacle_append (rs rs' : List Remark) :
    ReportsObstacle (rs ++ rs') ↔ ReportsObstacle rs ∨ ReportsObstacle rs' := by
  simp only [ReportsObstacle, List.mem_append, or_and_right, exists_or]

@[simp] theorem reportsObstacle_warning (text : String) (rs : List Remark) :
    ReportsObstacle (warningRemark text :: rs) ↔ ReportsObstacle rs := by
  simp [ReportsObstacle, warningRemark]

@[simp] theorem reportsObstacle_error (text : String) (rs : List Remark) :
    ReportsObstacle (errorRemark text :: rs) ↔ IsObstacle text ∨ ReportsObstacle rs := by
  simp [ReportsObstacle, errorRemark]

theorem exists_obstacle_iff (rs : List Remark) :
    (∃ text ∈ (ofRemarks rs).errors, IsObstacle text) ↔ ReportsObstacle rs := by
  simp only [mem_errors_ofRemarks, ReportsObstacle]
  constructor
  · rintro ⟨_, ⟨r, hr, herror, rfl⟩, hobstacle⟩
    exact ⟨r, hr, herror, hobstacle⟩
  · rintro ⟨r, hr, herror, hobstacle⟩
    exact ⟨r.text, ⟨r, hr, herror, rfl⟩, hobstacle⟩

/-! ## Texts -/

/-- The fields of the classifier begin with this letter. -/
theorem isObstacle_of_head {text : String} (h : text.toList.head? ≠ some 'c') :
    IsObstacle text := by
  constructor
  · rintro ⟨rest, hrest⟩
    exact h (by rw [← hrest]; rfl)
  · rintro ⟨rest, hrest⟩
    exact h (by rw [← hrest]; rfl)

theorem isObstacle_eventLevel (level : String) :
    IsObstacle s!"classifier.event_level: unknown level '{level}' (debug, info, warn, error)" := by
  simp [IsObstacle, IsAbout, toString]

theorem not_isObstacle_redirectQueue (queue : UInt32) :
    ¬ IsObstacle s!"classifier.redirect_queue: {queue} out of range (0-{queueCount - 1})" := by
  simp [IsObstacle, IsAbout, toString]

theorem not_isObstacle_eventCapacity :
    ¬ IsObstacle "classifier.event_capacity: must be at least 1" := by
  simp [IsObstacle, IsAbout]

theorem reportsObstacle_ite {p : Prop} [Decidable p] {text : String}
    (h : text.toList.head? ≠ some 'c') :
    ReportsObstacle (if p then [errorRemark text] else []) ↔ p := by
  split <;> simp_all [isObstacle_of_head h]

/-! ## The parts of a review -/

theorem reviewLogging_reports (s : LogSettings) : ¬ ReportsObstacle (reviewLogging s) := by
  rw [reviewLogging]
  split
  · simp
  · split <;> simp

theorem reviewClassifier_reports_iff (s : ClassifierSettings) :
    ReportsObstacle (reviewClassifier s) ↔
      ∃ text, s.eventLevel = some text ∧ Text.lowercase text ∉ Level.knownNames := by
  simp only [reviewClassifier, reportsObstacle_append, apply_ite ReportsObstacle,
    reportsObstacle_error, reportsObstacle_warning, reportsObstacle_nil,
    not_isObstacle_redirectQueue, not_isObstacle_eventCapacity, or_false, false_or, ite_self]
  cases hlevel : s.eventLevel with
  | none => simp
  | some text =>
    simp only [Option.some.injEq, exists_eq_left', ← Level.ofText_error_iff]
    cases Level.ofText text with
    | ok level => simp
    | error e => simp [isObstacle_eventLevel]

theorem reviewProtocols_reports_iff {what : String} (h : what.toList.head? ≠ some 'c')
    (names : List String) :
    ReportsObstacle (reviewProtocols what names) ↔ ProtocolSet.HasUnknown names := by
  rw [← ProtocolSet.ofNames_error_iff, reviewProtocols]
  cases ProtocolSet.ofNames names with
  | ok set =>
    dsimp only
    split <;> simp
  | error e =>
    have hobstacle : IsObstacle s!"{what}: {e.message}" := by
      refine isObstacle_of_head ?_
      simp only [toString, String.toList_append, List.append_assoc, List.head?_append]
      cases hhead : what.toList.head? with
      | none => simp
      | some c => simpa [hhead] using h
    simp [hobstacle]

theorem reviewWhitelist_reports_iff (i : Nat) (seen : List Address) (es : List WhitelistEntry) :
    ReportsObstacle (reviewWhitelist i seen es) ↔
      ∃ e ∈ es, ProtocolSet.HasUnknown e.protocols := by
  induction es generalizing i seen with
  | nil => simp [reviewWhitelist]
  | cons e es ih =>
    have hhead : (s!"whitelist[{i}] ({e.address.text})").toList.head? ≠ some 'c' := by
      simp [toString]
    rw [reviewWhitelist, reportsObstacle_append, reviewProtocols_reports_iff hhead,
      List.exists_mem_cons_iff]
    split
    · rw [reportsObstacle_warning, ih]
    · rw [ih]

theorem reviewIcmp_reports (what : String) (names : List String) :
    ¬ ReportsObstacle (reviewIcmp what names) := by
  rw [reviewIcmp]
  split
  · split <;> simp
  · simp

theorem reviewPorts_reports_iff (i : Nat) (seen : List UInt16) (es : List PortEntry) :
    ReportsObstacle (reviewPorts i seen es) ↔ ∃ e ∈ es, ProtocolSet.HasUnknown e.protocols := by
  induction es generalizing i seen with
  | nil => simp [reviewPorts]
  | cons e es ih =>
    have hhead : (s!"ports[{i}] (port {e.port})").toList.head? ≠ some 'c' := by
      simp [toString]
    rw [reviewPorts, reportsObstacle_append, reportsObstacle_append, reportsObstacle_append,
      reviewProtocols_reports_iff hhead, ih, List.exists_mem_cons_iff]
    simp only [reviewIcmp_reports, or_false]
    split <;> simp

/-! ## The number of keys -/

theorem mem_distinct {α : Type} [DecidableEq α] {xs : List α} {x : α} :
    x ∈ distinct xs ↔ x ∈ xs := by
  have hfold : ∀ seen : List α,
      x ∈ xs.foldl (fun seen x => if x ∈ seen then seen else x :: seen) seen ↔
        x ∈ seen ∨ x ∈ xs := by
    induction xs with
    | nil => simp
    | cons y ys ih =>
      intro seen
      rw [List.foldl_cons, ih, List.mem_cons]
      split
      · next hy =>
        constructor
        · rintro (hx | hx)
          · exact .inl hx
          · exact .inr (.inr hx)
        · rintro (hx | rfl | hx)
          · exact .inl hx
          · exact .inl hy
          · exact .inr hx
      · rw [List.mem_cons, or_assoc, or_left_comm]
  simp [distinct, hfold]

theorem nodup_distinct {α : Type} [DecidableEq α] (xs : List α) : (distinct xs).Nodup := by
  have hfold : ∀ seen : List α, seen.Nodup →
      (xs.foldl (fun seen x => if x ∈ seen then seen else x :: seen) seen).Nodup := by
    induction xs with
    | nil => exact fun seen hseen => hseen
    | cons y ys ih =>
      intro seen hseen
      rw [List.foldl_cons]
      split
      · exact ih seen hseen
      · next hy => exact ih (y :: seen) (List.nodup_cons.mpr ⟨hy, hseen⟩)
  exact hfold [] List.nodup_nil

theorem length_ipv4Only (s : Settings) :
    (ipv4Only (distinct (s.whitelist.map (·.address)))).length =
      (s.keys .ipv4Addresses).card := by
  refine length_eq_card_keys Key.address_injective ((nodup_distinct _).filter _) fun k => ?_
  rcases k with (a | a) | p <;> simp [ipv4Only, mem_distinct, entries, Key.table]

theorem length_ipv6Only (s : Settings) :
    (ipv6Only (distinct (s.whitelist.map (·.address)))).length =
      (s.keys .ipv6Addresses).card := by
  refine length_eq_card_keys Key.address_injective ((nodup_distinct _).filter _) fun k => ?_
  rcases k with (a | a) | p <;> simp [ipv6Only, mem_distinct, entries, Key.table]

theorem length_distinct_ports (s : Settings) :
    (distinct (s.ports.map (·.port))).length = (s.keys .ports).card := by
  refine length_eq_card_keys Key.port_injective (nodup_distinct _) fun k => ?_
  rcases k with (a | a) | p <;> simp [mem_distinct, entries, Key.table]

theorem reviewWhitelistSize_reports_iff (s : Settings) :
    ReportsObstacle (reviewWhitelistSize s.whitelist) ↔
      TableKind.capacity .ipv4Addresses < (s.keys .ipv4Addresses).card ∨
        TableKind.capacity .ipv6Addresses < (s.keys .ipv6Addresses).card := by
  rw [reviewWhitelistSize, length_ipv4Only, length_ipv6Only, reportsObstacle_append,
    reportsObstacle_ite (by simp [toString]), reportsObstacle_ite (by simp [toString])]

theorem reviewPortsSize_reports_iff (s : Settings) :
    ReportsObstacle (reviewPortsSize s.ports) ↔
      TableKind.capacity .ports < (s.keys .ports).card := by
  rw [reviewPortsSize, length_distinct_ports, reportsObstacle_ite (by simp [toString])]

/-- A review reports an obstacle exactly if there is one. -/
theorem review_reports_iff (s : Settings) :
    (∃ text ∈ s.review.errors, IsObstacle text) ↔ s.Obstructed := by
  have hentries : (∃ e ∈ s.entries, ProtocolSet.HasUnknown e.2) ↔
      (∃ e ∈ s.whitelist, ProtocolSet.HasUnknown e.protocols) ∨
        ∃ e ∈ s.ports, ProtocolSet.HasUnknown e.protocols := by
    simp [entries, or_and_right, exists_or]
  rw [review, exists_obstacle_iff, remarks, Obstructed, hentries, TableKind.exists_iff]
  simp only [reportsObstacle_append, reviewLogging_reports, reviewClassifier_reports_iff,
    reviewWhitelist_reports_iff, reviewWhitelistSize_reports_iff, reviewPorts_reports_iff,
    reviewPortsSize_reports_iff, false_or]
  constructor
  · rintro ((((hlevel | haddress) | h4 | h6) | hport) | hp)
    · exact .inr (.inl hlevel)
    · exact .inl (.inl haddress)
    · exact .inr (.inr (.inl h4))
    · exact .inr (.inr (.inr (.inl h6)))
    · exact .inl (.inr hport)
    · exact .inr (.inr (.inr (.inr hp)))
  · rintro ((haddress | hport) | hlevel | h4 | h6 | hp)
    · exact .inl (.inl (.inl (.inr haddress)))
    · exact .inl (.inr hport)
    · exact .inl (.inl (.inl (.inl hlevel)))
    · exact .inl (.inl (.inr (.inl h4)))
    · exact .inl (.inl (.inr (.inr h6)))
    · exact .inr hp

end Settings

end IngressGate
