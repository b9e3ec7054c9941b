import IngressGate.Rule.Table
/-!
# The rule book

The rules in force: one table for each kind of key. A `Ruling` is the content of a whole book that
is yet to be checked against the capacities; `Book.ofRuling` takes all of it or nothing.
-/
namespace IngressGate

/-- Rules for all three tables, of any number. -/
structure Ruling where
  ipv4 : Assignment Ipv4Address := .empty
  ipv6 : Assignment Ipv6Address := .empty
  ports : Assignment UInt16 := .empty
  deriving Repr

namespace Ruling

/-- Sets the value of a key. -/
def insert (r : Ruling) (k : Key) (v : ProtocolSet) : Ruling :=
  match k with
  | .address (.v4 a) => { r with ipv4 := r.ipv4.insert a v }
  | .address (.v6 a) => { r with ipv6 := r.ipv6.insert a v }
  | .port p => { r with ports := r.ports.insert p v }

/-- The value of a key. -/
def get? (r : Ruling) : Key → Option ProtocolSet
  | .address (.v4 a) => r.ipv4.get? a
  | .address (.v6 a) => r.ipv6.get? a
  | .port p => r.ports.get? p

/-- The rules of a list of entries; the last value of a key counts. -/
def ofList (es : List (Key × ProtocolSet)) : Ruling :=
  es.foldl (fun r e => r.insert e.1 e.2) {}

end Ruling

/-- The three tables in force. -/
structure Book where
  ipv4 : Table Ipv4Address .ipv4Addresses (TableKind.capacity .ipv4Addresses) := .empty
  ipv6 : Table Ipv6Address .ipv6Addresses (TableKind.capacity .ipv6Addresses) := .empty
  ports : Table UInt16 .ports (TableKind.capacity .ports) := .empty
  deriving Repr

namespace Book

/-- The book without rules. -/
def empty : Book := {}

/-- The value of a key. -/
def get? (b : Book) : Key → Option ProtocolSet
  | .address (.v4 a) => b.ipv4.get? a
  | .address (.v6 a) => b.ipv6.get? a
  | .port p => b.ports.get? p

/-- How many rules a table has. -/
def size (b : Book) : TableKind → Nat
  | .ipv4Addresses => b.ipv4.size
  | .ipv6Addresses => b.ipv6.size
  | .ports => b.ports.size

/-- Sets the value of a key in its table. -/
def insert (b : Book) (k : Key) (v : ProtocolSet) : Except CapacityExceeded Book :=
  match k with
  | .address (.v4 a) => return { b with ipv4 := ← b.ipv4.insert a v }
  | .address (.v6 a) => return { b with ipv6 := ← b.ipv6.insert a v }
  | .port p => return { b with ports := ← b.ports.insert p v }

/-- Takes its rule from a key, and tells whether there was one. -/
def erase (b : Book) (k : Key) : Bool × Book :=
  match k with
  | .address (.v4 a) => let (found, t) := b.ipv4.erase a; (found, { b with ipv4 := t })
  | .address (.v6 a) => let (found, t) := b.ipv6.erase a; (found, { b with ipv6 := t })
  | .port p => let (found, t) := b.ports.erase p; (found, { b with ports := t })

/-- The book with exactly the given rules. The tables are tried in order, IPv4 first. -/
def ofRuling (r : Ruling) : Except CapacityExceeded Book := do
  let ipv4 ← Table.ofAssignment r.ipv4
  let ipv6 ← Table.ofAssignment r.ipv6
  let ports ← Table.ofAssignment r.ports
  return ⟨ipv4, ipv6, ports⟩

end Book

end IngressGate
