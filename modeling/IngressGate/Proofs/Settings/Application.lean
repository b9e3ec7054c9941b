import Mathlib.Data.Finset.Card
import IngressGate.Gate
import IngressGate.Proofs.Rule.Keys
/-!
# When settings can be put in force

`Settings.Obstructed` says what is wrong with settings that `Gate.apply` refuses: an unknown name
among the protocols of an entry, an unknown event level, or too many different keys for a table. The
names and the keys are counted here as they stand in the settings, without any table.
-/
namespace IngressGate

/-! ## Names -/

namespace ProtocolSet

/-- The names of sets of protocols, in lower case. -/
def knownNames : List String := ["tcp", "udp", "icmp", "icmpv6", "all"]

/-- Some of the names stands for no set. -/
def HasUnknown (names : List String) : Prop :=
  ∃ name ∈ names, Text.lowercase name ∉ knownNames

theorem ofName?_eq_none_iff (name : String) :
    ofName? name = Option.none ↔ Text.lowercase name ∉ knownNames := by
  simp only [ofName?, knownNames, List.mem_cons, List.not_mem_nil, or_false]
  split_ifs <;> simp_all

theorem addNames_error_iff (acc : ProtocolSet) (names : List String) :
    (∃ e, addNames acc names = .error e) ↔ HasUnknown names := by
  induction names generalizing acc with
  | nil => simp [addNames, HasUnknown]
  | cons name names ih =>
    rw [addNames, ofName]
    cases hname : ofName? name with
    | none =>
      have hunknown := (ofName?_eq_none_iff name).mp hname
      simp [HasUnknown, hunknown]
    | some set =>
      have hknown : Text.lowercase name ∈ knownNames :=
        not_not.mp fun h => by simp [(ofName?_eq_none_iff name).mpr h] at hname
      rw [ih]
      simp [HasUnknown, hknown]

theorem ofNames_error_iff (names : List String) :
    (∃ e, ofNames names = .error e) ↔ HasUnknown names := addNames_error_iff none names

end ProtocolSet

namespace Level

/-- The names of levels, in lower case. -/
def knownNames : List String := ["debug", "info", "warn", "warning", "error"]

theorem ofText_error_iff (text : String) :
    (∃ e, ofText text = .error e) ↔ Text.lowercase text ∉ knownNames := by
  simp only [ofText, knownNames, List.mem_cons, List.not_mem_nil, or_false]
  split_ifs <;> grind

end Level

theorem ClassifierSettings.eventThreshold_error_iff (s : ClassifierSettings) :
    (∃ e, s.eventThreshold = .error e) ↔
      ∃ text, s.eventLevel = some text ∧ Text.lowercase text ∉ Level.knownNames := by
  cases hlevel : s.eventLevel with
  | none => simp [eventThreshold, hlevel]
  | some text =>
    simp only [eventThreshold, hlevel, Option.some.injEq, exists_eq_left',
      ← Level.ofText_error_iff]
    cases Level.ofText text <;> simp [Except.map]

/-! ## Keys -/

theorem TableKind.exists_iff {p : TableKind → Prop} :
    (∃ t, p t) ↔ p .ipv4Addresses ∨ p .ipv6Addresses ∨ p .ports := by
  constructor
  · rintro ⟨t, ht⟩
    cases t with
    | ipv4Addresses => exact .inl ht
    | ipv6Addresses => exact .inr (.inl ht)
    | ports => exact .inr (.inr ht)
  · rintro (h | h | h)
    · exact ⟨_, h⟩
    · exact ⟨_, h⟩
    · exact ⟨_, h⟩

namespace Settings

/-- The different keys of a table that the settings have rules for. -/
def keys (s : Settings) (t : TableKind) : Finset Key :=
  ((s.entries.map (·.1)).filter (·.table = t)).toFinset

/-- What stands for the keys of a table, each of them once, is as much as there are keys. -/
theorem length_eq_card_keys {s : Settings} {t : TableKind} {α : Type} {f : α → Key}
    (hf : Function.Injective f) {l : List α} (hnodup : l.Nodup)
    (hmem : ∀ k, k ∈ l.map f ↔ k.table = t ∧ k ∈ s.entries.map (·.1)) :
    l.length = (s.keys t).card := by
  rw [← l.length_map f, ← List.toFinset_card_of_nodup (hnodup.map hf)]
  congr 1
  ext k
  simp only [keys, List.mem_toFinset, hmem, List.mem_filter, decide_eq_true_iff, and_comm]

/-- Reading entries fails exactly if one of them has an unknown name. -/
theorem addEntries_error_iff (acc : Ruling) (es : List (Key × List String)) :
    (∃ e, addEntries acc es = .error e) ↔ ∃ e ∈ es, ProtocolSet.HasUnknown e.2 := by
  induction es generalizing acc with
  | nil => simp [addEntries]
  | cons e es ih =>
    have hhead := ProtocolSet.ofNames_error_iff e.2
    rw [addEntries, entryRule]
    cases hnames : ProtocolSet.ofNames e.2 with
    | error cause =>
      have hunknown : ProtocolSet.HasUnknown e.2 := hhead.mp ⟨cause, hnames⟩
      simp [hunknown]
    | ok set =>
      have hknown : ¬ ProtocolSet.HasUnknown e.2 := fun h => by
        obtain ⟨cause, hcause⟩ := hhead.mpr h
        simp [hnames] at hcause
      simp only [ih, List.exists_mem_cons_iff, hknown, false_or]

/-- Entries that are read add their keys, each to its own table. -/
theorem mem_keys_of_addEntries {acc r : Ruling} {es : List (Key × List String)}
    (h : addEntries acc es = .ok r) (t : TableKind) (k : Key) :
    k ∈ r.keys t ↔ k ∈ acc.keys t ∨ k.table = t ∧ k ∈ es.map (·.1) := by
  induction es generalizing acc with
  | nil =>
    cases h
    simp
  | cons e es ih =>
    rw [addEntries, entryRule] at h
    cases hnames : ProtocolSet.ofNames e.2 with
    | error cause =>
      rw [hnames] at h
      cases h
    | ok set =>
      rw [hnames] at h
      rw [ih h, Ruling.mem_keys_insert, List.map_cons, List.mem_cons]
      constructor
      · rintro ((⟨rfl, ht⟩ | hacc) | ⟨ht, hk⟩)
        · exact .inr ⟨ht, .inl rfl⟩
        · exact .inl hacc
        · exact .inr ⟨ht, .inr hk⟩
      · rintro (hacc | ⟨ht, rfl | hk⟩)
        · exact .inl (.inr hacc)
        · exact .inl (.inl ⟨rfl, ht⟩)
        · exact .inr ⟨ht, hk⟩

theorem length_keys_ruling {s : Settings} {r : Ruling} (h : s.ruling = .ok r) (t : TableKind) :
    (r.keys t).length = (s.keys t).card := by
  refine length_eq_card_keys Function.injective_id (r.nodup_keys t) fun k => ?_
  rw [List.map_id, mem_keys_of_addEntries h]
  simp

/-! ## Obstacles -/

/-- What keeps settings from being put in force. -/
def Obstructed (s : Settings) : Prop :=
  (∃ e ∈ s.entries, ProtocolSet.HasUnknown e.2) ∨
    (∃ text, s.classifier.eventLevel = some text ∧ Text.lowercase text ∉ Level.knownNames) ∨
    ∃ t : TableKind, t.capacity < (s.keys t).card

end Settings

/-- Settings are refused exactly if something is wrong with them that the rules or the event
threshold depend on. -/
theorem Gate.apply_error_iff (g : Gate) (s : Settings) :
    (∃ e, (g.apply s).answer = .error e) ↔ s.Obstructed := by
  have hentries : (∃ e, s.ruling = .error e) ↔ ∃ e ∈ s.entries, ProtocolSet.HasUnknown e.2 :=
    Settings.addEntries_error_iff {} s.entries
  have hlevel := s.classifier.eventThreshold_error_iff
  rw [Settings.Obstructed, ← hentries, ← hlevel, apply]
  cases hruling : s.ruling with
  | error e => simp
  | ok r =>
    cases hthreshold : s.classifier.eventThreshold with
    | error e => simp
    | ok threshold =>
      have hroom := Book.exists_ofRuling_iff r
      simp only [Settings.length_keys_ruling hruling] at hroom
      simp only [replaceRules]
      cases hbook : Book.ofRuling r with
      | error e => simpa [hbook] using hroom
      | ok b => simpa [hbook] using hroom

/-- What putting settings in force has done where it succeeded. -/
theorem Gate.apply_ok {g : Gate} {s : Settings} (h : (g.apply s).answer = .ok ()) :
    ∃ r threshold g', s.ruling = .ok r ∧ s.classifier.eventThreshold = .ok threshold ∧
      g.replaceRules r = .ok g' ∧
      (g.apply s).gate = (g'.setMode s.classifier.redirectMode).setThreshold threshold := by
  cases hruling : s.ruling with
  | error e =>
    simp only [apply, hruling] at h
    cases h
  | ok r =>
    cases hthreshold : s.classifier.eventThreshold with
    | error e =>
      simp only [apply, hruling, hthreshold] at h
      cases h
    | ok threshold =>
      cases hreplace : g.replaceRules r with
      | error e =>
        simp only [apply, hruling, hthreshold, hreplace] at h
        cases h
      | ok g' => exact ⟨r, threshold, g', rfl, rfl, hreplace, by simp only [apply, *]⟩

end IngressGate
