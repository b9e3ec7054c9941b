import IngressGate.Proofs.Gate.Reload
import IngressGate.Proofs.Settings.Document
/-!
# A reload is the sum of its rules

A gate can be given all rules at once, from a ruling or from a document, or a new book can be given
one rule after the other. Either way succeeds exactly if the other one does, and the rules in force
are the same after it.
-/
namespace IngressGate

namespace Book
variable {b b' c : Book} {r : Ruling} {es es' : List (Key × ProtocolSet)}

/-- Two books answer all questions about their rules alike. -/
structure SameAnswers (b c : Book) : Prop where
  get?_eq : ∀ k, b.get? k = c.get? k
  size_eq : ∀ t, b.size t = c.size t

theorem sameAnswers_of_get? (h : ∀ k, b.get? k = c.get? k) : SameAnswers b c :=
  ⟨h, size_congr fun k => by rw [h]⟩

/-- Rules of different keys are accepted in one order exactly if they are in any other. -/
theorem insertAll_perm (h : es.Perm es') (hnodup : (es.map Prod.fst).Nodup)
    (hall : b.insertAll es = .ok b') : ∃ c, b.insertAll es' = .ok c ∧ SameAnswers c b' := by
  have hget := fun k => Ruling.get?_insertAll_perm (r := b.ruling) h hnodup k
  have hfits : (b.ruling.insertAll es').Fits :=
    (Ruling.fits_congr hget).mpr (exists_insertAll_iff.mp ⟨b', hall⟩)
  obtain ⟨c, hc⟩ := exists_insertAll_iff.mpr hfits
  refine ⟨c, hc, sameAnswers_of_get? fun k => ?_⟩
  rw [get?_eq_ruling, get?_eq_ruling, insertAll_eq_ok_iff.mp hc, insertAll_eq_ok_iff.mp hall, hget]

end Book

namespace Gate
variable {g g' : Gate} {s : Settings} {r : Ruling} {b : Book} {es : List (Key × ProtocolSet)}

theorem replaceRules_eq_ok_iff :
    g.replaceRules r = .ok g' ↔ ∃ b : Book, b.ruling = r ∧ g' = { g with book := b } := by
  constructor
  · intro h
    rw [replaceRules] at h
    cases hbook : Book.ofRuling r with
    | ok b =>
      rw [hbook] at h
      exact ⟨b, Book.ofRuling_eq_ok_iff.mp hbook, (Except.ok.inj h).symm⟩
    | error e =>
      rw [hbook] at h
      cases h
  · rintro ⟨b, hb, rfl⟩
    rw [replaceRules, Book.ofRuling_eq_ok_iff.mpr hb]

theorem exists_replaceRules_iff (g : Gate) (r : Ruling) :
    (∃ g', g.replaceRules r = .ok g') ↔ r.Fits := by
  rw [← Book.exists_ruling_eq_iff]
  constructor
  · rintro ⟨g', h⟩
    obtain ⟨b, hb, -⟩ := replaceRules_eq_ok_iff.mp h
    exact ⟨b, hb⟩
  · rintro ⟨b, hb⟩
    exact ⟨_, replaceRules_eq_ok_iff.mpr ⟨b, hb, rfl⟩⟩

/-- To give a gate a whole ruling comes to the same as to give a new book its rules one by one. -/
structure ReloadsAs (g : Gate) (r : Ruling) (es : List (Key × ProtocolSet)) : Prop where
  ok_iff : (∃ g', g.replaceRules r = .ok g') ↔ ∃ b, Book.empty.insertAll es = .ok b
  sameAnswers : ∀ g' b, g.replaceRules r = .ok g' → Book.empty.insertAll es = .ok b →
    g'.book.SameAnswers b

theorem reloadsAs_of_get? (g : Gate) (h : ∀ k, (Ruling.ofList es).get? k = r.get? k) :
    g.ReloadsAs r es where
  ok_iff := by
    rw [g.exists_replaceRules_iff, Book.exists_insertAll_iff]
    exact (Ruling.fits_congr h).symm
  sameAnswers := by
    intro g' b hg' hb
    obtain ⟨b', hb', rfl⟩ := replaceRules_eq_ok_iff.mp hg'
    refine Book.sameAnswers_of_get? fun k => ?_
    rw [Book.get?_eq_ruling, Book.get?_eq_ruling, hb', Book.insertAll_eq_ok_iff.mp hb]
    exact (h k).symm

/-! ## Documents -/

theorem ruling_of_known (h : ∀ e ∈ s.entries, ∀ name ∈ e.2, ProtocolSet.ofName? name ≠ none) :
    s.ruling = .ok (.ofList s.rules) := by
  obtain ⟨-, hruling⟩ | ⟨e, name, -, -, hruling⟩ := s.ruling_cases
  · exact hruling
  · obtain ⟨e, he, name, hname, hunknown⟩ := Settings.ruling_error_iff.mp ⟨_, hruling⟩
    exact absurd hunknown (h e he name hname)

theorem apply_ok_iff (g : Gate) (hr : s.ruling = .ok r) :
    (g.apply s).answer = .ok () ↔
      (∃ threshold, s.classifier.eventThreshold = .ok threshold) ∧
        ∃ g', g.replaceRules r = .ok g' := by
  rw [apply, hr]
  cases s.classifier.eventThreshold with
  | error e => simp
  | ok threshold =>
    dsimp only
    cases g.replaceRules r with
    | error e => simp
    | ok g' => simp

/-- **To reload all rules is to provide them one by one.** A gate takes a ruling exactly if a new
book takes its rules in any order, and a document exactly if a new book takes the rules of its
entries in the order of the document; after it, both give the same answers. So rules of different
keys are accepted in any order if they are in one, and in each order it comes to the same. -/
theorem reload_is_provisioning :
    (∀ (g : Gate) (r : Ruling) (es : List (Key × ProtocolSet)), es.Perm r.entries →
      g.ReloadsAs r es) ∧
    (∀ (g : Gate) (s : Settings),
      (∀ e ∈ s.entries, ∀ name ∈ e.2, ProtocolSet.ofName? name ≠ none) →
      (∃ r, s.ruling = .ok r ∧ g.ReloadsAs r s.rules) ∧
      ((g.apply s).answer = .ok () ↔
        (∃ threshold, s.classifier.eventThreshold = .ok threshold) ∧
          ∃ b, Book.empty.insertAll s.rules = .ok b) ∧
      ∀ b, (g.apply s).answer = .ok () → Book.empty.insertAll s.rules = .ok b →
        (g.apply s).gate.book.SameAnswers b) ∧
    ∀ (b b' : Book) (es es' : List (Key × ProtocolSet)), es.Perm es' → (es.map Prod.fst).Nodup →
      b.insertAll es = .ok b' → ∃ c, b.insertAll es' = .ok c ∧ c.SameAnswers b' := by
  refine ⟨fun g r es hperm => ?_, fun g s hknown => ?_, fun b b' es es' => Book.insertAll_perm⟩
  · exact g.reloadsAs_of_get? (Ruling.get?_ofList_of_perm hperm)
  · have hruling := ruling_of_known hknown
    have hreload : g.ReloadsAs (.ofList s.rules) s.rules :=
      g.reloadsAs_of_get? fun k => rfl
    refine ⟨⟨_, hruling, hreload⟩, ?_, fun b hok hb => ?_⟩
    · rw [g.apply_ok_iff hruling, hreload.ok_iff]
    · obtain ⟨r, threshold, g', hr, -, hreplace, hgate⟩ := apply_ok hok
      obtain rfl := Except.ok.inj (hr.symm.trans hruling)
      rw [hgate]
      exact hreload.sameAnswers g' b hreplace hb

/-- Settings in which the last entry takes the place of the first one. -/
def replacedPort : Settings where
  whitelist := [⟨.v4 (.ofBytes 10 0 0 5), ["all"]⟩]
  ports := [⟨53, ["tcp"]⟩, ⟨80, ["tcp"]⟩, ⟨53, ["udp"]⟩]

theorem reload_is_provisioning_replacedPort :
    let rules : List (Key × ProtocolSet) :=
      [(.address (.v4 (.ofBytes 10 0 0 5)), .all), (.port 53, .udp), (.port 80, .tcp)]
    let reload := Gate.apply {} replacedPort
    (∃ b, Book.empty.insertAll replacedPort.rules = .ok b ∧ reload.gate.book.SameAnswers b) ∧
      (∃ g', sshGate.replaceRules (.ofList rules) = .ok g' ∧
        ∃ b, Book.empty.insertAll rules.reverse = .ok b ∧ g'.book.SameAnswers b) ∧
      ∃ b c, sshGate.book.insertAll rules = .ok b ∧ sshGate.book.insertAll rules.reverse = .ok c ∧
        c.SameAnswers b := by
  intro rules reload
  obtain ⟨hruling, hdocument, horder⟩ := reload_is_provisioning
  refine ⟨?_, ?_, ?_⟩
  · obtain ⟨-, hok, hsame⟩ := hdocument {} replacedPort (by decide +kernel)
    have hanswer : reload.answer = .ok () := by decide +kernel
    obtain ⟨-, b, hb⟩ := hok.mp hanswer
    exact ⟨b, hb, hsame b hanswer hb⟩
  · have hreload := hruling sshGate (.ofList rules) rules.reverse (List.reverse_perm rules)
    obtain ⟨b, hb⟩ : ∃ b, Book.empty.insertAll rules.reverse = .ok b := ⟨_, rfl⟩
    obtain ⟨g', hg'⟩ := hreload.ok_iff.mpr ⟨b, hb⟩
    exact ⟨g', hg', b, hb, hreload.sameAnswers g' b hg' hb⟩
  · obtain ⟨b, hb⟩ : ∃ b, sshGate.book.insertAll rules = .ok b := ⟨_, rfl⟩
    obtain ⟨c, hc, hsame⟩ := horder sshGate.book b rules rules.reverse
      (List.reverse_perm rules).symm (by decide +kernel) hb
    exact ⟨b, c, hb, hc, hsame⟩

end Gate

end IngressGate
