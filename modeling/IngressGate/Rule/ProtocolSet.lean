import IngressGate.Frame.Protocol
import IngressGate.Text.Case
/-!
# Sets of protocols

The value of a rule: the set of upper-layer protocols it permits, as eight bits of which four stand
for TCP, UDP, ICMP and ICMPv6. `ProtocolSet.all` has every bit, those without a meaning included.
-/
namespace IngressGate

/-- The protocols that a rule permits. -/
structure ProtocolSet where
  bits : UInt8
  deriving DecidableEq, Repr

namespace ProtocolSet

/-- The set without protocols. -/
def none : ProtocolSet := ⟨0⟩

/-- The set of TCP alone. -/
def tcp : ProtocolSet := ⟨1⟩

/-- The set of UDP alone. -/
def udp : ProtocolSet := ⟨2⟩

/-- The set of ICMP alone. -/
def icmp : ProtocolSet := ⟨4⟩

/-- The set of ICMPv6 alone. -/
def icmpv6 : ProtocolSet := ⟨8⟩

/-- The set of all protocols. -/
def all : ProtocolSet := ⟨0xFF⟩

/-- The protocols of either set. -/
def union (a b : ProtocolSet) : ProtocolSet := ⟨a.bits ||| b.bits⟩

/-- Whether two sets share a bit. -/
def intersects (a b : ProtocolSet) : Bool := a.bits &&& b.bits ≠ 0

/-- Whether a set has no bit at all. -/
def isEmpty (s : ProtocolSet) : Bool := s.bits = 0

/-- The set of one protocol number, empty for a number without a bit. -/
def ofProtocol (p : UInt8) : ProtocolSet :=
  if p = Protocol.tcp then tcp
  else if p = Protocol.udp then udp
  else if p = Protocol.icmp then icmp
  else if p = Protocol.icmpv6 then icmpv6
  else none

/-- Whether a set permits a protocol number. -/
def permits (s : ProtocolSet) (p : UInt8) : Bool := s.intersects (ofProtocol p)

/-- The names of single protocols, in the order in which a set lists them. -/
def named : List (String × ProtocolSet) :=
  [("tcp", tcp), ("udp", udp), ("icmp", icmp), ("icmpv6", icmpv6)]

/-- The text of a set: `all`, or its protocols joined by bars, or `none`. -/
def text (s : ProtocolSet) : String :=
  if s = all then "all"
  else
    match (named.filter fun n => s.intersects n.2).map (·.1) with
    | [] => "none"
    | names => "|".intercalate names

/-- The set that a name stands for, in any case. -/
def ofName? (name : String) : Option ProtocolSet :=
  let key := Text.lowercase name
  if key = "tcp" then some tcp
  else if key = "udp" then some udp
  else if key = "icmp" then some icmp
  else if key = "icmpv6" then some icmpv6
  else if key = "all" then some all
  else Option.none

/-- A name that stands for no set. -/
structure UnknownProtocol where
  name : String
  deriving DecidableEq, Repr

/-- The wording of the error. -/
def UnknownProtocol.message (e : UnknownProtocol) : String := s!"unknown protocol '{e.name}'"

/-- The set that a name stands for, or the name as an error. -/
def ofName (name : String) : Except UnknownProtocol ProtocolSet :=
  match ofName? name with
  | some s => .ok s
  | Option.none => .error ⟨name⟩

/-- Adds the sets of the names to `acc`, up to the first unknown name. -/
def addNames (acc : ProtocolSet) : List String → Except UnknownProtocol ProtocolSet
  | [] => .ok acc
  | name :: names =>
    match ofName name with
    | .ok s => addNames (acc.union s) names
    | .error e => .error e

/-- The union of the sets of the names; the first unknown name is the error. -/
def ofNames (names : List String) : Except UnknownProtocol ProtocolSet := addNames none names

end ProtocolSet

end IngressGate
