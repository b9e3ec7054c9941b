import IngressGate.Address.Text
/-!
# What a rule is about

A rule speaks of the source address of a packet or of its destination port. Each kind of key has a
table of its own.
-/
namespace IngressGate

/-- The three tables of rules. -/
inductive TableKind
  | ipv4Addresses
  | ipv6Addresses
  | ports
  deriving DecidableEq, Repr

namespace TableKind

/-- How messages name a table. -/
def text : TableKind → String
  | ipv4Addresses => "ipv4 whitelist"
  | ipv6Addresses => "ipv6 whitelist"
  | ports => "port rules"

/-- How many rules a table may hold. -/
def capacity : TableKind → Nat
  | ipv4Addresses => 1024
  | ipv6Addresses => 1024
  | ports => 128

end TableKind

/-- The subject of a rule. -/
inductive Key
  | address (address : Address)
  | port (port : UInt16)
  deriving DecidableEq, Repr

namespace Key

/-- The table that a key belongs to. -/
def table : Key → TableKind
  | address (.v4 _) => .ipv4Addresses
  | address (.v6 _) => .ipv6Addresses
  | port _ => .ports

/-- The text of a key. -/
def text : Key → String
  | address a => a.text
  | port p => s!"port {p}"

end Key

end IngressGate
