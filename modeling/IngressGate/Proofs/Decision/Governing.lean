import IngressGate.Proofs.Decision.Explanation
import IngressGate.Proofs.Rule.Undo
/-!
# Which rule governs a frame

Whether a rule applies to a frame, and which one, depends on the keys that have rules and not on
what these rules permit. So two ways to look up rules for the same keys take a decision to the same
place: it comes to one finding under both, or to a rule of one key under both, and then the sets of
protocols of that key decide. `Related` compares the two sets of each key, and `decideFrame_cases`
hands the comparison on to the decision.
-/
namespace IngressGate

open Decision

/-- The key of the rule that applies to a packet. -/
def Match.key (flow : Flow) : Match → Key
  | .source => flow.endpoints.sourceKey
  | .port => .port flow.destinationPort

/-- Two ways to look up rules have rules for the same keys, with related sets for each of them. -/
def Related (R : Key → ProtocolSet → ProtocolSet → Prop) (rules rules' : Rules) : Prop :=
  ∀ k, Option.Rel (R k) (rules k) (rules' k)

variable {R : Key → ProtocolSet → ProtocolSet → Prop} {rules rules' : Rules} {queue : UInt32}
  {f : List UInt8} {flow : Flow} {rule : Match} {allowed : ProtocolSet} {x : Finding} {n : Nat}

theorem Related.refl (hrefl : ∀ k a, R k a a) (rules : Rules) : Related R rules rules := by
  intro k
  cases rules k with
  | none => exact .none
  | some allowed => exact .some (hrefl k allowed)

namespace Related
variable (h : Related R rules rules') {k : Key}
include h

theorem eq_none (hk : rules k = none) : rules' k = none := by
  have hrel := h k
  rw [hk] at hrel
  cases hrel' : rules' k with
  | none => rfl
  | some allowed' =>
    rw [hrel'] at hrel
    cases hrel

theorem exists_some (hk : rules k = some allowed) :
    ∃ allowed', rules' k = some allowed' ∧ R k allowed allowed' := by
  have hrel := h k
  rw [hk] at hrel
  cases hrel' : rules' k with
  | none =>
    rw [hrel'] at hrel
    cases hrel
  | some allowed' =>
    rw [hrel'] at hrel
    cases hrel with
    | some hR => exact ⟨allowed', rfl, hR⟩

theorem needsPorts {c : Cursor} (hn : NeedsPorts rules f flow c) : NeedsPorts rules' f flow c :=
  ⟨hn.packet, h.eq_none hn.noRule, hn.hasPorts⟩

theorem isSome_eq (k : Key) : (rules' k).isSome = (rules k).isSome := by
  cases hk : rules k with
  | none => rw [h.eq_none hk]
  | some allowed =>
    obtain ⟨allowed', hk', -⟩ := h.exists_some hk
    rw [hk']
    rfl

/-- The rule of one key governs the frame under both. -/
theorem applies (happlies : Applies rules f flow rule allowed) :
    ∃ allowed', Applies rules' f flow rule allowed' ∧ R (rule.key flow) allowed allowed' := by
  cases happlies with
  | source hp hrule =>
    obtain ⟨allowed', hrule', hR⟩ := h.exists_some hrule
    exact ⟨allowed', .source hp hrule', hR⟩
  | port hn hread hrule =>
    obtain ⟨allowed', hrule', hR⟩ := h.exists_some hrule
    exact ⟨allowed', .port (h.needsPorts hn) hread hrule', hR⟩

/-- Where no rule governs the frame, the decision takes the same course. -/
theorem course_cases (hcourse : Course rules queue f x n) :
    Course rules' queue f x n ∨ ∃ flow rule allowed, Applies rules f flow rule allowed := by
  cases hcourse with
  | ethernet hread => exact .inl (.ethernet hread)
  | arp hc => exact .inl (.arp hc)
  | otherType hc h4 ha h6 => exact .inl (.otherType hc h4 ha h6)
  | ipv4 hc hread => exact .inl (.ipv4 hc hread)
  | ipv6 hc hread => exact .inl (.ipv6 hc hread)
  | source hp hrule => exact .inr ⟨_, _, _, .source hp hrule⟩
  | noPorts hp hrule hports => exact .inl (.noPorts hp (h.eq_none hrule) hports)
  | later hp hrule hports => exact .inl (.later hp (h.eq_none hrule) hports)
  | transport hn hread => exact .inl (.transport (h.needsPorts hn) hread)
  | port hn hread hrule => exact .inr ⟨_, _, _, .port hn hread hrule⟩
  | unmatched hn hread hrule => exact .inl (.unmatched (h.needsPorts hn) hread (h.eq_none hrule))

/-- **The finding is the same under both, or the rule of one key applies under both**, and its two
sets decide. -/
theorem decideFrame_cases (queue : UInt32) (f : List UInt8) :
    decideFrame rules' queue f = decideFrame rules queue f ∨
      ∃ flow rule allowed allowed', R (rule.key flow) allowed allowed' ∧
        Applies rules f flow rule allowed ∧ Applies rules' f flow rule allowed' := by
  obtain ⟨n, hcourse⟩ := exists_course_decideFrame rules queue f
  obtain hsame | ⟨flow, rule, allowed, happlies⟩ := h.course_cases hcourse
  · exact .inl hsame.decideFrame_eq
  · obtain ⟨allowed', happlies', hR⟩ := h.applies happlies
    exact .inr ⟨flow, rule, allowed, allowed', hR, happlies, happlies'⟩

end Related

namespace Book
variable {b b' c c' : Book} {k : Key} {v old new : ProtocolSet}

/-- A rule that is written over another one leaves the rules related, if its set is. -/
theorem related_insert (hrefl : ∀ x a, R x a a) (hold : b.get? k = some old) (hR : R k old new)
    (hinsert : b.insert k new = .ok b') : Related R b.get? b'.get? := by
  intro x
  rw [get?_insert hinsert]
  by_cases hx : x = k
  · rw [if_pos hx, hx, hold]
    exact .some hR
  · rw [if_neg hx]
    exact Related.refl hrefl b.get? x

/-- To write one value to both books is accepted by both, and leaves them related, or by neither. -/
theorem insert_cases_of_related (h : Related R b.get? c.get?) (hv : R k v v) :
    (∃ e, b.insert k v = .error e ∧ c.insert k v = .error e) ∨
      ∃ b' c', b.insert k v = .ok b' ∧ c.insert k v = .ok c' ∧ Related R b'.get? c'.get? := by
  have hpresent : (c.get? k).isSome = (b.get? k).isSome := h.isSome_eq k
  have hsize : c.size k.table = b.size k.table := size_congr h.isSome_eq k.table
  obtain hroom | ⟨hnone, hfull⟩ := b.room_or_full k
  · obtain ⟨b', hb', -⟩ := insert_accepted (v := v) hroom
    obtain ⟨c', hc', -⟩ := insert_accepted (b := c) (v := v) (by rwa [hpresent, hsize])
    refine .inr ⟨b', c', hb', hc', fun x => ?_⟩
    rw [get?_insert hb', get?_insert hc']
    split
    · next hx => exact .some (hx ▸ hv)
    · exact h x
  · exact .inl ⟨_, insert_refused hnone hfull,
      insert_refused (h.eq_none hnone) (hsize.trans hfull)⟩

theorem related_erase (h : Related R b.get? c.get?) (k : Key) :
    (c.erase k).1 = (b.erase k).1 ∧ Related R (b.erase k).2.get? (c.erase k).2.get? := by
  refine ⟨?_, fun x => ?_⟩
  · rw [erase_found, erase_found, h.isSome_eq]
  · rw [get?_erase, get?_erase]
    split
    · exact .none
    · exact h x

end Book

/-- What becomes of a frame that a rule applies to is up to the set of that rule. -/
theorem Applies.verdict_decideFrame (h : Applies rules f flow rule allowed) :
    (decideFrame rules queue f).verdict =
      if allowed.permits flow.protocol then .redirect queue else .drop := by
  rw [h.decideFrame_eq, verdict_apply]

/-- A rule of a port applies to packets of the two protocols with ports only. -/
theorem Applies.hasPorts (h : Applies rules f flow .port allowed) :
    flow.protocol = 6 ∨ flow.protocol = 17 := by
  cases h with
  | port hn => exact hn.hasPorts

end IngressGate
