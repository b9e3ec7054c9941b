import Mathlib.Tactic.Common
import IngressGate.Decision
import IngressGate.Proofs.Frame.Headers
/-!
# The stages of a decision

What each stage comes to: the rule that applies to a packet, the ports of a transport header, and
the stage at which a packet without a rule for its source is settled.
-/
namespace IngressGate

open Bytes

namespace ProtocolSet

theorem permits_iff (s : ProtocolSet) (protocol : UInt8) :
    s.permits protocol = true ↔ s.bits &&& (ofProtocol protocol).bits ≠ 0 := by
  simp [permits, intersects]

end ProtocolSet

namespace Decision

theorem verdict_apply (flow : Flow) (rule : Match) (queue : UInt32) (allowed : ProtocolSet) :
    (apply flow rule queue allowed).verdict =
      if allowed.permits flow.protocol then .redirect queue else .drop := by
  rw [apply]
  split <;> rfl

theorem readPorts_eq (protocol : UInt8) (c : Cursor) :
    readPorts protocol c =
      if protocol = 6 then
        if c.remaining < 20 then .error (.truncated "tcp" 20 c.remaining) c
        else if (byteAt c.rest 12).toNat / 16 < 5 then
          .error (.malformed .tcpDataOffset) (c.advance 20)
        else .ok (wordAt c.rest 0, wordAt c.rest 2) (c.advance 20)
      else if c.remaining < 8 then .error (.truncated "udp" 8 c.remaining) c
      else .ok (wordAt c.rest 0, wordAt c.rest 2) (c.advance 8) := by
  rw [readPorts]
  by_cases hp : protocol = 6
  · have htcp := Tcp.read_eq c
    rw [if_pos (show protocol = Protocol.tcp from hp), if_pos hp]
    split_ifs at htcp ⊢
    · exact Reader.bind_of_error htcp
    · exact Reader.bind_of_error htcp
    · exact Reader.bind_of_ok htcp
  · have hudp := Udp.read_eq c
    rw [if_neg (show ¬ protocol = Protocol.tcp from hp), if_neg hp]
    split_ifs at hudp ⊢
    · exact Reader.bind_of_error hudp
    · exact Reader.bind_of_ok hudp

variable {rules : Rules} {queue : UInt32} {flow : Flow} {later : Bool} {c : Cursor}

theorem hasPorts_iff (protocol : UInt8) :
    Protocol.hasPorts protocol = true ↔ protocol = 6 ∨ protocol = 17 := by
  exact decide_eq_true_iff

theorem decidePacket_of_rule {allowed : ProtocolSet}
    (h : rules flow.endpoints.sourceKey = some allowed) :
    decidePacket rules queue flow later c = apply flow .source queue allowed := by
  simp [decidePacket, h]

theorem decidePacket_of_noPorts (h : rules flow.endpoints.sourceKey = none)
    (hp : ¬ (flow.protocol = 6 ∨ flow.protocol = 17)) :
    decidePacket rules queue flow later c = .noAddressRule flow := by
  simp [decidePacket, h, mt (hasPorts_iff flow.protocol).mp hp]

theorem decidePacket_of_later (h : rules flow.endpoints.sourceKey = none)
    (hp : flow.protocol = 6 ∨ flow.protocol = 17) :
    decidePacket rules queue flow true c = .laterFragment flow := by
  simp [decidePacket, h, (hasPorts_iff flow.protocol).mpr hp]

theorem decidePacket_of_ports (h : rules flow.endpoints.sourceKey = none)
    (hp : flow.protocol = 6 ∨ flow.protocol = 17) :
    decidePacket rules queue flow false c = decideByPort rules queue flow c := by
  simp [decidePacket, h, (hasPorts_iff flow.protocol).mpr hp]

/-- The payload of a later fragment is not looked at. -/
theorem decidePacket_later_congr (c c' : Cursor) :
    decidePacket rules queue flow true c = decidePacket rules queue flow true c' := by
  cases h : rules flow.endpoints.sourceKey with
  | some allowed => rw [decidePacket_of_rule h, decidePacket_of_rule h]
  | none =>
    by_cases hp : flow.protocol = 6 ∨ flow.protocol = 17
    · rw [decidePacket_of_later h hp, decidePacket_of_later h hp]
    · rw [decidePacket_of_noPorts h hp, decidePacket_of_noPorts h hp]

/-! ## Where frames are redirected to -/

variable {q : UInt32}

theorem eq_of_apply_redirect {rule : Match} {allowed : ProtocolSet}
    (h : (apply flow rule queue allowed).verdict = .redirect q) : q = queue := by
  rw [verdict_apply] at h
  split at h
  · cases h
    rfl
  · cases h

theorem eq_of_decideByPort_redirect
    (h : (decideByPort rules queue flow c).verdict = .redirect q) : q = queue := by
  rw [decideByPort] at h
  split at h
  · cases h
  · dsimp only at h
    split at h
    · exact eq_of_apply_redirect h
    · cases h

theorem eq_of_decidePacket_redirect
    (h : (decidePacket rules queue flow later c).verdict = .redirect q) : q = queue := by
  rw [decidePacket] at h
  split at h
  · exact eq_of_apply_redirect h
  · split at h
    · cases h
    split at h
    · cases h
    · exact eq_of_decideByPort_redirect h

end Decision

/-- A frame is redirected, if at all, to the queue that is given for it. -/
theorem eq_of_decideFrame_redirect {rules : Rules} {queue q : UInt32} {frame : List UInt8}
    (h : (decideFrame rules queue frame).verdict = .redirect q) : q = queue := by
  rw [decideFrame] at h
  split at h
  · cases h
  split at h
  · cases h
    rfl
  · rw [Decision.decideIpv4] at h
    split at h
    · cases h
    · exact Decision.eq_of_decidePacket_redirect h
  · rw [Decision.decideIpv6] at h
    split at h
    · cases h
    · exact Decision.eq_of_decidePacket_redirect h
  · cases h

end IngressGate
