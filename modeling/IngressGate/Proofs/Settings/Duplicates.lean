import IngressGate.Proofs.Settings.Document
import IngressGate.Proofs.Settings.Errors
/-!
# Duplicates

A review warns of each entry whose key has come before. It keeps its own account of what has come,
and so the warnings are as many as the entries that do not make it into the rules.
-/
namespace IngressGate

/-- How many values of a list repeat one of `seen` or one before them. -/
def repeats {α : Type} [DecidableEq α] : (seen : Finset α) → List α → Nat
  | _, [] => 0
  | seen, x :: xs => (if x ∈ seen then 1 else 0) + repeats (insert x seen) xs

theorem repeats_add_card {α : Type} [DecidableEq α] (seen : Finset α) (xs : List α) :
    repeats seen xs + (seen ∪ xs.toFinset).card = seen.card + xs.length := by
  induction xs generalizing seen with
  | nil => simp [repeats]
  | cons x xs ih =>
    have hunion : seen ∪ (x :: xs).toFinset = insert x seen ∪ xs.toFinset := by simp
    have hrest := ih (insert x seen)
    rw [repeats, hunion, List.length_cons]
    by_cases hx : x ∈ seen
    · rw [if_pos hx]
      rw [Finset.insert_eq_of_mem hx] at hrest ⊢
      omega
    · rw [if_neg hx]
      rw [Finset.card_insert_of_notMem hx] at hrest
      omega

namespace Review

/-- A text ends with another one. -/
def endsWith (ending text : String) : Bool := decide (ending.toList <:+ text.toList)

/-- Whether a text ends with another one is seen from any end of it that is not too short. -/
theorem endsWith_append {ending tail : String} (x : String)
    (hshort : ¬ tail.toList <:+ ending.toList) :
    endsWith ending (x ++ tail) = endsWith ending tail := by
  rw [endsWith, endsWith, decide_eq_decide, String.toList_append]
  constructor
  · intro h
    have hends := List.suffix_or_suffix_of_suffix h (List.suffix_append x.toList tail.toList)
    exact hends.resolve_right hshort
  · intro h
    exact h.trans (List.suffix_append x.toList tail.toList)

theorem endsWith_self (x ending : String) : endsWith ending (x ++ ending) = true := by
  rw [endsWith, decide_eq_true_eq, String.toList_append]
  exact List.suffix_append x.toList ending.toList

theorem getLast?_append {tail : String} {c : Char} (x : String)
    (h : tail.toList.getLast? = some c) : (x ++ tail).toList.getLast? = some c := by
  rw [String.toList_append, List.getLast?_append, h]
  rfl

theorem getLast?_of_endsWith {ending text : String} {c : Char}
    (hlast : ending.toList.getLast? = some c) (h : endsWith ending text = true) :
    text.toList.getLast? = some c := by
  rw [endsWith, decide_eq_true_eq] at h
  obtain ⟨start, hstart⟩ := h
  rw [← hstart, List.getLast?_append, hlast]
  rfl

/-- A warning that an address has come before. -/
def isDuplicateAddress (text : String) : Bool :=
  endsWith ": duplicate address, last entry wins" text

/-- A warning that a port has come before. -/
def isDuplicatePort (text : String) : Bool := endsWith ": duplicate port, last entry wins" text

theorem isDuplicateAddress_address (what : String) :
    isDuplicateAddress s!"{what}: duplicate address, last entry wins" = true :=
  endsWith_self what _

theorem isDuplicateAddress_port (what : String) :
    isDuplicateAddress s!"{what}: duplicate port, last entry wins" = false :=
  (endsWith_append what (by decide +kernel)).trans (by decide +kernel)

theorem isDuplicatePort_address (what : String) :
    isDuplicatePort s!"{what}: duplicate address, last entry wins" = false :=
  (endsWith_append what (by decide +kernel)).trans (by decide +kernel)

theorem isDuplicatePort_port (what : String) :
    isDuplicatePort s!"{what}: duplicate port, last entry wins" = true :=
  endsWith_self what _

theorem countP_warnings (p : String → Bool) (rs : List Remark) :
    (ofRemarks rs).warnings.countP p = rs.countP fun r => !r.isError && p r.text := by
  rw [ofRemarks, List.countP_map, List.countP_filter]
  exact List.countP_congr fun r _ => by simp [and_comm]

end Review

namespace Settings

open Review

variable {s : Settings}

/-- How many of the remarks are warnings of some kind. -/
def countWarnings (p : String → Bool) (rs : List Remark) : Nat :=
  rs.countP fun r => !r.isError && p r.text

@[simp] theorem countWarnings_nil (p : String → Bool) : countWarnings p [] = 0 := rfl

@[simp] theorem countWarnings_append (p : String → Bool) (rs rs' : List Remark) :
    countWarnings p (rs ++ rs') = countWarnings p rs + countWarnings p rs' := List.countP_append

@[simp] theorem countWarnings_error (p : String → Bool) (text : String) (rs : List Remark) :
    countWarnings p (errorRemark text :: rs) = countWarnings p rs := by
  simp [countWarnings, errorRemark]

@[simp] theorem countWarnings_warning (p : String → Bool) (text : String) (rs : List Remark) :
    countWarnings p (warningRemark text :: rs) =
      (if p text then 1 else 0) + countWarnings p rs := by
  simp [countWarnings, warningRemark, List.countP_cons, Nat.add_comm]

/-- A kind of warnings that has none but those of duplicates. -/
structure Overlooks (p : String → Bool) : Prop where
  logging : ∀ level : String, p s!"logging.level: unknown level '{level}', using info" = false
  interface : p "classifier.interface: not specified, `run` requires --interface" = false
  protocols : ∀ what : String,
    p s!"{what}: no protocols listed, matching traffic will be dropped" = false
  icmp : ∀ what : String, p s!"{what}: ICMP never reaches port rules, only tcp/udp apply" = false

/-- All other warnings end with other letters. -/
theorem overlooks_of_getLast? {p : String → Bool}
    (h : ∀ text, p text = true → text.toList.getLast? = some 's') : Overlooks p := by
  have hother {text : String} {c : Char} (hlast : text.toList.getLast? = some c) (hc : c ≠ 's') :
      p text = false := by
    cases htext : p text with
    | false => rfl
    | true => exact absurd (Option.some.inj (hlast.symm.trans (h text htext))) hc
  refine ⟨fun level => ?_, ?_, fun what => ?_, fun what => ?_⟩
  · exact hother (getLast?_append ("logging.level: unknown level '" ++ level) rfl) (by decide)
  · exact hother (c := 'e') rfl (by decide)
  · exact hother (getLast?_append what rfl) (by decide)
  · exact hother (getLast?_append what rfl) (by decide)

theorem overlooks_isDuplicateAddress : Overlooks isDuplicateAddress :=
  overlooks_of_getLast? fun _ => getLast?_of_endsWith rfl

theorem overlooks_isDuplicatePort : Overlooks isDuplicatePort :=
  overlooks_of_getLast? fun _ => getLast?_of_endsWith rfl

namespace Overlooks
variable {p : String → Bool} (h : Overlooks p)
include h

theorem reviewLogging (s : LogSettings) : countWarnings p (reviewLogging s) = 0 := by
  rw [Settings.reviewLogging]
  split
  · rfl
  · split
    · rfl
    · simp [h.logging]

theorem reviewClassifier (s : ClassifierSettings) : countWarnings p (reviewClassifier s) = 0 := by
  simp only [Settings.reviewClassifier, countWarnings_append, apply_ite (countWarnings p),
    countWarnings_error, countWarnings_warning, countWarnings_nil, h.interface]
  cases s.eventLevel with
  | none => simp
  | some level =>
    dsimp only
    cases Level.ofText level with
    | ok known => simp
    | error e => simp

theorem reviewProtocols (what : String) (names : List String) :
    countWarnings p (reviewProtocols what names) = 0 := by
  rw [Settings.reviewProtocols]
  split
  · split
    · simp [h.protocols]
    · rfl
  · simp

theorem reviewIcmp (what : String) (names : List String) :
    countWarnings p (reviewIcmp what names) = 0 := by
  rw [Settings.reviewIcmp]
  split
  · split
    · simp [h.icmp]
    · rfl
  · rfl

/-- Each address that has come before is warned of. -/
theorem reviewWhitelist {b : Bool}
    (hb : ∀ what : String, p s!"{what}: duplicate address, last entry wins" = b) (i : Nat)
    (seen : List Address) (es : List WhitelistEntry) :
    countWarnings p (reviewWhitelist i seen es) =
      b.toNat * repeats seen.toFinset (es.map (·.address)) := by
  induction es generalizing i seen with
  | nil => rfl
  | cons e es ih =>
    rw [Settings.reviewWhitelist, countWarnings_append, h.reviewProtocols, List.map_cons, repeats]
    by_cases he : e.address ∈ seen
    · have hseen : e.address ∈ seen.toFinset := List.mem_toFinset.mpr he
      rw [if_pos he, if_pos hseen, countWarnings_warning, hb, ih, Finset.insert_eq_of_mem hseen]
      cases b <;> simp
    · have hnew : e.address ∉ seen.toFinset := mt List.mem_toFinset.mp he
      rw [if_neg he, if_neg hnew, ih, List.toFinset_cons]
      simp

/-- Each port that has come before is warned of. -/
theorem reviewPorts {b : Bool}
    (hb : ∀ what : String, p s!"{what}: duplicate port, last entry wins" = b) (i : Nat)
    (seen : List UInt16) (es : List PortEntry) :
    countWarnings p (reviewPorts i seen es) =
      b.toNat * repeats seen.toFinset (es.map (·.port)) := by
  induction es generalizing i seen with
  | nil => rfl
  | cons e es ih =>
    simp only [Settings.reviewPorts, countWarnings_append, h.reviewProtocols, h.reviewIcmp,
      List.map_cons, repeats, List.mem_toFinset, ih, List.toFinset_cons]
    by_cases he : e.port ∈ seen
    · rw [if_pos he, if_pos he, countWarnings_warning, hb]
      cases b <;> simp
    · rw [if_neg he, if_neg he]
      simp

end Overlooks

theorem countWarnings_reviewWhitelistSize (p : String → Bool) (es : List WhitelistEntry) :
    countWarnings p (reviewWhitelistSize es) = 0 := by
  simp [reviewWhitelistSize, apply_ite (countWarnings p)]

theorem countWarnings_reviewPortsSize (p : String → Bool) (es : List PortEntry) :
    countWarnings p (reviewPortsSize es) = 0 := by
  simp [reviewPortsSize, apply_ite (countWarnings p)]

/-- How many warnings of a kind a review has, where the kind has all duplicates of addresses or none
of them, and all duplicates of ports or none. -/
theorem countP_review_warnings {p : String → Bool} (h : Overlooks p) {address port : Bool}
    (haddress : ∀ what : String, p s!"{what}: duplicate address, last entry wins" = address)
    (hport : ∀ what : String, p s!"{what}: duplicate port, last entry wins" = port)
    (s : Settings) :
    s.review.warnings.countP p =
      address.toNat * repeats ∅ (s.whitelist.map (·.address)) +
        port.toNat * repeats ∅ (s.ports.map (·.port)) := by
  have hcount : s.review.warnings.countP p = countWarnings p s.remarks :=
    countP_warnings p s.remarks
  simp only [hcount, remarks, countWarnings_append, h.reviewLogging, h.reviewClassifier,
    h.reviewWhitelist haddress, h.reviewPorts hport, countWarnings_reviewWhitelistSize,
    countWarnings_reviewPortsSize, List.toFinset_nil, Nat.zero_add, Nat.add_zero]

theorem countP_isDuplicateAddress (s : Settings) :
    s.review.warnings.countP isDuplicateAddress = repeats ∅ (s.whitelist.map (·.address)) := by
  rw [countP_review_warnings overlooks_isDuplicateAddress isDuplicateAddress_address
    isDuplicateAddress_port]
  simp

theorem countP_isDuplicatePort (s : Settings) :
    s.review.warnings.countP isDuplicatePort = repeats ∅ (s.ports.map (·.port)) := by
  rw [countP_review_warnings overlooks_isDuplicatePort isDuplicatePort_address
    isDuplicatePort_port]
  simp

/-! ## The account of a document -/

theorem length_distinct {α : Type} [DecidableEq α] (xs : List α) :
    (distinct xs).length = xs.toFinset.card := by
  rw [← List.toFinset_card_of_nodup (nodup_distinct xs)]
  congr 1
  ext x
  simp [mem_distinct]

theorem length_ipv4Only_add_ipv6Only (xs : List Address) :
    (ipv4Only xs).length + (ipv6Only xs).length = xs.length := by
  induction xs with
  | nil => rfl
  | cons a xs ih =>
    rw [ipv4Only, ipv6Only] at ih ⊢
    cases a with
    | v4 a =>
      simp only [List.filter_cons, if_true, Bool.false_eq_true, if_false, List.length_cons]
      omega
    | v6 a =>
      simp only [List.filter_cons, if_true, Bool.false_eq_true, if_false, List.length_cons]
      omega

/-- What has a rule, and what is warned of as a duplicate, are all entries together. -/
theorem sizes_add_duplicates {r : Ruling} (h : s.ruling = .ok r) :
    r.size .ipv4Addresses + r.size .ipv6Addresses + s.review.warnings.countP isDuplicateAddress =
        s.whitelist.length ∧
      r.size .ports + s.review.warnings.countP isDuplicatePort = s.ports.length := by
  have hsize (t : TableKind) : r.size t = (s.keys t).card :=
    (r.length_keys t).symm.trans (length_keys_ruling h t)
  have haddresses := repeats_add_card ∅ (s.whitelist.map (·.address))
  have hports := repeats_add_card ∅ (s.ports.map (·.port))
  rw [Finset.empty_union, ← length_distinct, Finset.card_empty, List.length_map]
    at haddresses hports
  rw [← length_ipv4Only_add_ipv6Only, length_ipv4Only, length_ipv6Only] at haddresses
  rw [length_distinct_ports] at hports
  rw [countP_isDuplicateAddress, countP_isDuplicatePort, hsize, hsize, hsize]
  omega

/-- **The rules are exactly what the document says, the last entry of a key winning, and the
warnings of duplicates account for the difference.** A document is refused exactly if one of its
entries has a name that stands for no set, and then for the first such entry and the first such name
in it. Otherwise each key has the union of all names of its last entry, in whatever order and
however often they come, and a key without an entry has nothing. The rules of a document and its
duplicates, as the review counts them, are all of its entries. -/
theorem ruling_is_document (s : Settings) :
    ((∃ bad, s.ruling = .error bad) ↔
      ∃ e ∈ s.entries, ∃ name ∈ e.2, ProtocolSet.ofName? name = none) ∧
    (∀ bad, s.ruling = .error bad → ∃ e name, s.entries.find? isRefused = some e ∧
      e.2.find? ProtocolSet.isUnknown = some name ∧ bad = ⟨e.1, ⟨name⟩⟩) ∧
    (∀ r, s.ruling = .ok r →
      (∀ k, r.get? k = (lastNames? s.entries k).map ProtocolSet.unionOf) ∧
      (∀ k, r.get? k = none ↔ k ∉ s.entries.map Prod.fst) ∧
      r.size .ipv4Addresses + r.size .ipv6Addresses +
        s.review.warnings.countP isDuplicateAddress = s.whitelist.length ∧
      r.size .ports + s.review.warnings.countP isDuplicatePort = s.ports.length) ∧
    ∀ names names' : List String, (∀ name, name ∈ names ↔ name ∈ names') →
      ProtocolSet.unionOf names = ProtocolSet.unionOf names' := by
  refine ⟨s.ruling_error_iff, ?_, ?_, fun _ _ => ProtocolSet.unionOf_congr⟩
  · intro bad hbad
    obtain ⟨-, hruling⟩ | ⟨e, name, he, hname, hruling⟩ := s.ruling_cases
    · rw [hruling] at hbad
      cases hbad
    · exact ⟨e, name, he, hname, Except.error.inj (hbad.symm.trans hruling)⟩
  · intro r hr
    refine ⟨get?_ruling hr, fun k => ?_, sizes_add_duplicates hr⟩
    rw [get?_ruling hr, Option.map_eq_none_iff, lastNames?_eq_none_iff]

/-- Settings in which an address and a port come twice. -/
def repeatedEntries : Settings where
  whitelist := [⟨.v4 (.ofBytes 10 0 0 5), ["tcp"]⟩, ⟨.v6 ⟨Vector.replicate 16 0⟩, ["all"]⟩,
    ⟨.v4 (.ofBytes 10 0 0 5), ["UDP", "icmp", "udp"]⟩]
  ports := [⟨53, ["tcp"]⟩, ⟨53, ["udp"]⟩]

/-- Settings with two entries that have unknown names, of which the first one has two. -/
def unknownNames : Settings where
  whitelist := [⟨.v4 (.ofBytes 10 0 0 5), ["tcp", "sctp", "gre"]⟩]
  ports := [⟨53, ["dns"]⟩]

theorem ruling_is_document_repeatedEntries :
    (∃ r, repeatedEntries.ruling = .ok r ∧
      r.get? (.address (.v4 (.ofBytes 10 0 0 5))) = some (.union .icmp .udp) ∧
      r.size .ipv4Addresses + r.size .ipv6Addresses = 2 ∧ r.size .ports = 1) ∧
    unknownNames.ruling = .error ⟨.address (.v4 (.ofBytes 10 0 0 5)), ⟨"sctp"⟩⟩ := by
  obtain ⟨hrefused, -, haccepted, -⟩ := ruling_is_document repeatedEntries
  obtain ⟨hrefused', hfirst, -⟩ := ruling_is_document unknownNames
  constructor
  · have hknown :
        ¬∃ e ∈ repeatedEntries.entries, ∃ name ∈ e.2, ProtocolSet.ofName? name = none := by
      decide +kernel
    cases hruling : repeatedEntries.ruling with
    | error bad => exact absurd (hrefused.mp ⟨bad, hruling⟩) hknown
    | ok r =>
      obtain ⟨hget, -, haddresses, hports⟩ := haccepted r hruling
      have hwarned : repeatedEntries.review.warnings.countP isDuplicateAddress = 1 := by
        decide +kernel
      have hwarned' : repeatedEntries.review.warnings.countP isDuplicatePort = 1 := by
        decide +kernel
      refine ⟨r, rfl, (hget _).trans (by decide +kernel), ?_, ?_⟩
      · rw [hwarned] at haddresses
        exact Nat.succ.inj haddresses
      · rw [hwarned'] at hports
        exact Nat.succ.inj hports
  · have hunknown : ∃ e ∈ unknownNames.entries, ∃ name ∈ e.2, ProtocolSet.ofName? name = none := by
      decide +kernel
    obtain ⟨bad, hbad⟩ := hrefused'.mpr hunknown
    obtain ⟨e, name, he, hname, rfl⟩ := hfirst bad hbad
    have hentry : unknownNames.entries.find? isRefused =
        some (.address (.v4 (.ofBytes 10 0 0 5)), ["tcp", "sctp", "gre"]) := by decide +kernel
    obtain rfl := Option.some.inj (he.symm.trans hentry)
    have hsctp : ["tcp", "sctp", "gre"].find? ProtocolSet.isUnknown = some "sctp" := by
      decide +kernel
    obtain rfl := Option.some.inj (hname.symm.trans hsctp)
    exact hbad

end Settings

end IngressGate
