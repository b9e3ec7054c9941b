import IngressGate.Frame.Ethernet
import IngressGate.Frame.Ipv4
import IngressGate.Frame.Ipv6
import IngressGate.Frame.Transport
import IngressGate.Proofs.Checked.Scan
/-!
# Headers as the bytes that were taken

A checked parser hands out a header as the bytes that it has taken, and the fields are read from
these when they are asked for. A view `Shows` a header when every accessor answers, with the field
of that header: none of them asks for a byte behind those that were taken. All five parsers follow
their readers and hand out such views.
-/
namespace IngressGate

open Checked

/-! ## Ethernet -/

namespace Ethernet

/-- A header: the bytes of its fixed part, and what has been read from those and from the tag. -/
structure View where
  bytes : List UInt8
  tag : Option VlanTag
  etherType : UInt16

namespace View

/-- The address of the receiver, in the first six bytes. -/
def destination (v : View) : Checked MacAddress := return ⟨← octets v.bytes 0 6⟩

/-- The address of the sender, behind it. -/
def source (v : View) : Checked MacAddress := return ⟨← octets v.bytes 6 6⟩

/-- Every accessor answers, with the field of the header. -/
structure Shows (v : View) (h : Header) : Prop where
  destination : v.destination = .ok h.destination
  source : v.source = .ok h.source
  tag : v.tag = h.tag
  etherType : v.etherType = h.etherType

theorem shows (field : Vector UInt8 14) (tag : Option VlanTag) (etherType : UInt16) :
    Shows ⟨field.toList, tag, etherType⟩
      ⟨⟨Bytes.slice field 0 6⟩, ⟨Bytes.slice field 6 6⟩, tag, etherType⟩ where
  destination := by
    rw [View.destination, octets_of_isPrefix (List.prefix_refl _) (by decide)]
    rfl
  source := by
    rw [View.source, octets_of_isPrefix (List.prefix_refl _) (by decide)]
    rfl
  tag := rfl
  etherType := rfl

end View

/-- Parses the header of a frame and at most one tag. -/
def parse : Parser View := do
  let bytes ← Parser.take "ethernet" 14
  let outer ← word bytes 12
  if outer = EtherType.vlan.code then
    let tag ← Parser.take "vlan" 4
    return ⟨bytes, some ⟨← word tag 0⟩, ← word tag 2⟩
  else
    return ⟨bytes, none, outer⟩

theorem follows_parse : Follows View.Shows parse read := by
  refine .bind (.take "ethernet" 14) ?_
  rintro _ fixed rfl
  refine .lift (word_of_isPrefix (List.prefix_refl _) (by decide)) ?_
  by_cases hvlan : Bytes.u16 fixed[12] fixed[13] = EtherType.vlan.code
  · simp only [if_pos hvlan]
    refine .bind (.take "vlan" 4) ?_
    rintro _ inner rfl
    refine .lift (word_of_isPrefix (List.prefix_refl _) (by decide)) ?_
    refine .lift (word_of_isPrefix (List.prefix_refl _) (by decide)) ?_
    exact .pure (View.shows fixed _ _)
  · simp only [if_neg hvlan]
    exact .pure (View.shows fixed _ _)

end Ethernet

/-! ## IPv4 -/

namespace Ipv4

/-- A header with its options. -/
structure View where
  bytes : List UInt8

namespace View
variable (v : View)

/-- The version, in the upper half of the first byte. -/
def version : Checked UInt8 := return (← index v.bytes 0) >>> 4

/-- The length of the header in 32-bit words, in the lower half of the first byte. -/
def headerWords : Checked UInt8 := return (← index v.bytes 0) &&& 0x0F

/-- The length of the packet, header included. -/
def totalLength : Checked UInt16 := word v.bytes 2

/-- Where the fragment belongs in the packet, in units of eight bytes: the lower thirteen bits of
the field, below the flags. -/
def fragmentOffset : Checked UInt16 :=
  return Bytes.u16 ((← index v.bytes 6) &&& 0x1F) (← index v.bytes 7)

/-- Whether the packet is a fragment that does not start at offset zero. -/
def isLaterFragment : Checked Bool := return 0 < (← v.fragmentOffset)

/-- How many more hops the packet may take. -/
def timeToLive : Checked UInt8 := index v.bytes 8

/-- The number of the protocol of the payload. -/
def protocol : Checked UInt8 := index v.bytes 9

/-- The address of the sender. -/
def source : Checked Ipv4Address := ipv4Address v.bytes 12

/-- The address of the receiver. -/
def destination : Checked Ipv4Address := ipv4Address v.bytes 16

/-- The number of bytes of the header, options included: all that were taken. -/
def length : Nat := v.bytes.length

/-- Every accessor answers, with the field of the header. -/
structure Shows (h : Header) : Prop where
  version : v.version = .ok h.version
  headerWords : v.headerWords = .ok h.headerWords
  totalLength : v.totalLength = .ok h.totalLength
  fragmentOffset : v.fragmentOffset = .ok h.fragmentOffset
  isLaterFragment : v.isLaterFragment = .ok h.isLaterFragment
  timeToLive : v.timeToLive = .ok h.timeToLive
  protocol : v.protocol = .ok h.protocol
  source : v.source = .ok h.source
  destination : v.destination = .ok h.destination
  length : v.length = h.length

theorem fragmentOffset_of_isPrefix {v : View} {field : Vector UInt8 20}
    (h : field.toList <+: v.bytes) :
    v.fragmentOffset = .ok (Header.ofFixed field).fragmentOffset := by
  rw [View.fragmentOffset, index_of_isPrefix h (by decide), index_of_isPrefix h (by decide)]
  rfl

theorem shows_of_isPrefix {v : View} {field : Vector UInt8 20} (h : field.toList <+: v.bytes)
    (hlength : v.bytes.length = (Header.ofFixed field).length) : v.Shows (.ofFixed field) where
  version := by
    rw [View.version, index_of_isPrefix h (by decide)]
    rfl
  headerWords := by
    rw [View.headerWords, index_of_isPrefix h (by decide)]
    rfl
  totalLength := word_of_isPrefix h (by decide)
  fragmentOffset := fragmentOffset_of_isPrefix h
  isLaterFragment := by
    have hpos : decide (0 < (Header.ofFixed field).fragmentOffset) =
        (Header.ofFixed field).isLaterFragment := decide_eq_decide.mpr UInt16.pos_iff_ne_zero
    rw [View.isLaterFragment, fragmentOffset_of_isPrefix h, ← hpos]
    rfl
  timeToLive := index_of_isPrefix h (by decide)
  protocol := index_of_isPrefix h (by decide)
  source := ipv4Address_of_isPrefix h (by decide)
  destination := ipv4Address_of_isPrefix h (by decide)
  length := hlength

end View

/-- Parses a header, its options included. -/
def parse : Parser View := do
  let fixed ← Parser.peek "ipv4" 20
  if (← index fixed 0) >>> 4 ≠ 4 then
    Parser.reject (.malformed .ipv4Version)
  else
    let length ← mul ((← index fixed 0) &&& 0x0F).toNat 4
    if length < 20 then
      Parser.reject (.malformed .ipv4HeaderLength)
    else
      return ⟨← Parser.take "ipv4" length⟩

/-- The twenty bytes that are looked at are the first of those that are taken then. -/
theorem shows_take {field : Vector UInt8 20} {rest : List UInt8}
    (hfield : field.toList = rest.take 20) (hlong : 20 ≤ (Header.ofFixed field).length)
    (hle : (Header.ofFixed field).length ≤ rest.length) :
    View.Shows ⟨rest.take (Header.ofFixed field).length⟩ (.ofFixed field) := by
  refine View.shows_of_isPrefix ?_ (List.length_take_of_le hle)
  rw [hfield]
  exact List.take_prefix_take_left hlong

theorem follows_parse : Follows View.Shows parse read := by
  intro frame position hframe hposition
  refine .peek hframe hposition (by decide) fun field hfield => ?_
  have hstart : field.toList <+: field.toList := List.prefix_refl _
  have hlength : (field[0] &&& 0x0F).toNat * 4 = (Header.ofFixed field).length := Nat.mul_comm _ _
  rw [lift_bind (index_of_isPrefix hstart (by decide))]
  by_cases hversion : (Header.ofFixed field).version = 4
  · have hversion' : field[0] >>> 4 = 4 := hversion
    simp only [hversion, hversion', ne_eq, not_true_eq_false, if_false]
    rw [lift_bind (index_of_isPrefix hstart (by decide)),
      lift_bind (mul_of_small (toNat_small _) (by decide)), hlength]
    by_cases hshort : (Header.ofFixed field).length < 20
    · simp only [if_pos hshort]
      exact .error hposition (HeaderError.plain_malformed _)
    · simp only [if_neg hshort]
      refine .take_skip hframe hposition (by decide) fun hle => .ok hle ?_
      have hrest : (Header.ofFixed field).length ≤ (frame.drop position).length := by
        rw [List.length_drop]
        omega
      exact shows_take hfield (Nat.le_of_not_lt hshort) hrest
  · have hversion' : field[0] >>> 4 ≠ 4 := hversion
    simp only [ne_eq, hversion, hversion', not_false_eq_true, if_true]
    exact .error hposition (HeaderError.plain_malformed _)

end Ipv4

/-! ## IPv6 -/

namespace Ipv6

/-- A base header. -/
structure View where
  bytes : List UInt8

namespace View
variable (v : View)

/-- The version, in the upper half of the first byte. -/
def version : Checked UInt8 := return (← index v.bytes 0) >>> 4

/-- The length of what follows the base header. -/
def payloadLength : Checked UInt16 := word v.bytes 4

/-- The number of the header that comes next. -/
def nextHeader : Checked UInt8 := index v.bytes 6

/-- How many more hops the packet may take. -/
def hopLimit : Checked UInt8 := index v.bytes 7

/-- The address of the sender. -/
def source : Checked Ipv6Address := return ⟨← octets v.bytes 8 16⟩

/-- The address of the receiver. -/
def destination : Checked Ipv6Address := return ⟨← octets v.bytes 24 16⟩

/-- Every accessor answers, with the field of the header. -/
structure Shows (h : Header) : Prop where
  version : v.version = .ok h.version
  payloadLength : v.payloadLength = .ok h.payloadLength
  nextHeader : v.nextHeader = .ok h.nextHeader
  hopLimit : v.hopLimit = .ok h.hopLimit
  source : v.source = .ok h.source
  destination : v.destination = .ok h.destination

theorem shows (field : Vector UInt8 40) : Shows ⟨field.toList⟩ (.ofFixed field) where
  version := by
    rw [View.version, index_of_isPrefix (List.prefix_refl _) (by decide)]
    rfl
  payloadLength := word_of_isPrefix (List.prefix_refl _) (by decide)
  nextHeader := index_of_isPrefix (List.prefix_refl _) (by decide)
  hopLimit := index_of_isPrefix (List.prefix_refl _) (by decide)
  source := by
    rw [View.source, octets_of_isPrefix (List.prefix_refl _) (by decide)]
    rfl
  destination := by
    rw [View.destination, octets_of_isPrefix (List.prefix_refl _) (by decide)]
    rfl

end View

/-- A base header and what its chain has come to. -/
structure ResolvedView where
  header : View
  protocol : UInt8
  extensions : Nat
  laterFragment : Bool

namespace ResolvedView

/-- Every accessor of the base header answers, and the chain has come to the same. -/
structure Shows (r : ResolvedView) (p : Resolved) : Prop where
  header : r.header.Shows p.header
  protocol : r.protocol = p.chain.protocol
  extensions : r.extensions = p.chain.extensions
  laterFragment : r.laterFragment = p.chain.laterFragment

end ResolvedView

namespace Chain

/-- Parses a fragment header. -/
def parseFragment : Parser (UInt8 × Bool) := do
  let bytes ← Parser.take "ipv6 fragment" 8
  let later : Bool := (← word bytes 2) >>> 3 ≠ 0
  return (← index bytes 0, later)

/-- Parses an extension header that counts its length in units, some of them not counted. -/
def parseSized (uncounted unit : Nat) : Parser UInt8 := do
  let start ← Parser.peek "ipv6 extension" 2
  let length ← mul (← add (← index start 1).toNat uncounted) unit
  let next ← index start 0
  Parser.skip "ipv6 extension" length
  return next

/-- Follows a chain through the given depths, in turn. -/
def parse (header : View) : (depths : List Nat) → (next : UInt8) → (later : Bool) →
    Parser ResolvedView
  | [], next, _ => Parser.reject (.unsupportedExtension next)
  | depth :: depths, next, later =>
    match Link.ofType next with
    | .upperLayer => return ⟨header, next, depth, later⟩
    | .unsupported => Parser.reject (.unsupportedExtension next)
    | link =>
      if depth = maxExtensions then Parser.reject (.unsupportedExtension next)
      else match link with
        | .fragment => do
          let (next, marked) ← parseFragment
          parse header depths next (later || marked)
        | .options => do parse header depths (← parseSized 1 8) later
        | .authentication => do parse header depths (← parseSized 2 4) later
        | .upperLayer | .unsupported => Parser.reject (.unsupportedExtension next)

theorem follows_parseFragment : Follows Eq parseFragment readFragment := by
  refine .bind (.take "ipv6 fragment" 8) ?_
  rintro _ field rfl
  refine .lift (word_of_isPrefix (List.prefix_refl _) (by decide)) ?_
  refine .lift (index_of_isPrefix (List.prefix_refl _) (by decide)) ?_
  exact .pure rfl

theorem follows_parseSized (uncounted unit : Nat) (length : UInt8 → Nat)
    (hlength : ∀ n : UInt8, (n.toNat + uncounted) * unit = length n)
    (huncounted : uncounted ≤ 2) (hunit : unit ≤ 8) :
    Follows Eq (parseSized uncounted unit) (readSized length) := by
  refine .bind (.peek "ipv6 extension" 2) ?_
  rintro _ field rfl
  have hcount : field[1].toNat + uncounted < 2 ^ 16 := by
    have hbyte := field[1].toNat_lt
    omega
  refine .lift (index_of_isPrefix (List.prefix_refl _) (by decide)) ?_
  refine .lift (add_of_small (toNat_small _) (Nat.lt_of_le_of_lt huncounted (by decide))) ?_
  refine .lift (mul_of_small hcount (Nat.lt_of_le_of_lt hunit (by decide))) ?_
  refine .lift (index_of_isPrefix (List.prefix_refl _) (by decide)) ?_
  rw [hlength]
  refine .bind (.skip "ipv6 extension" _) fun _ _ _ => ?_
  exact .pure rfl

variable {view : View} {header : Header}

/-- The walk through the depths from one on follows the reader that may still see as many extension
headers as there are depths up to the bound. -/
theorem follows_parse (hview : view.Shows header) (budget : Nat) {depth : Nat}
    (hdepth : depth + budget = maxExtensions) (next : UInt8) (seen : Chain)
    (hseen : seen.extensions = depth) :
    Follows (fun r chain => r.Shows ⟨header, chain⟩)
      (parse view (List.range' depth (budget + 1)) next seen.laterFragment)
      (read budget next seen) := by
  induction budget generalizing depth next seen with
  | zero =>
    have hlast : depth = maxExtensions := hdepth
    rw [List.range'_succ, parse]
    cases hlink : Link.ofType next <;> simp only [read, hlink, if_pos hlast, reduceCtorEq, imp_self]
    case upperLayer => exact .pure ⟨hview, rfl, hseen.symm, rfl⟩
    all_goals exact .reject (HeaderError.plain_unsupportedExtension _)
  | succ budget ih =>
    have hmore : depth ≠ maxExtensions := by omega
    have hdepth' : depth + 1 + budget = maxExtensions := by omega
    rw [List.range'_succ, parse]
    cases hlink : Link.ofType next <;> simp only [read, hlink, if_neg hmore]
    case upperLayer => exact .pure ⟨hview, rfl, hseen.symm, rfl⟩
    case unsupported => exact .reject (HeaderError.plain_unsupportedExtension _)
    case fragment =>
      refine .bind follows_parseFragment ?_
      rintro _ ⟨next, marked⟩ rfl
      exact ih hdepth' next
        ⟨seen.protocol, seen.extensions + 1, seen.laterFragment || marked⟩ (congrArg (· + 1) hseen)
    case options =>
      refine .bind (follows_parseSized 1 8 _ (fun _ => rfl) (by decide) (by decide)) ?_
      rintro next' _ rfl
      exact ih hdepth' next' { seen with extensions := seen.extensions + 1 }
        (congrArg (· + 1) hseen)
    case authentication =>
      refine .bind (follows_parseSized 2 4 _ (fun _ => rfl) (by decide) (by decide)) ?_
      rintro next' _ rfl
      exact ih hdepth' next' { seen with extensions := seen.extensions + 1 }
        (congrArg (· + 1) hseen)

end Chain

/-- Parses a base header and its chain. -/
def parse : Parser ResolvedView := do
  let header := View.mk (← Parser.take "ipv6" 40)
  if (← header.version) ≠ 6 then
    Parser.reject (.malformed .ipv6Version)
  else
    Chain.parse header (List.range (maxExtensions + 1)) (← header.nextHeader) false

theorem follows_parse : Follows ResolvedView.Shows parse read := by
  refine .bind (.take "ipv6" 40) ?_
  rintro _ field rfl
  have hview := View.shows field
  refine .lift hview.version ?_
  by_cases hversion : (Header.ofFixed field).version = 6
  · simp only [hversion, ne_eq, not_true_eq_false, if_false]
    refine .lift hview.nextHeader ?_
    have hchain := Chain.follows_parse hview maxExtensions (Nat.zero_add _)
      (Header.ofFixed field).nextHeader ⟨(Header.ofFixed field).nextHeader, 0, false⟩ rfl
    rw [List.range_eq_range']
    exact hchain.map
  · simp only [ne_eq, hversion, not_false_eq_true, if_true]
    exact .reject (HeaderError.plain_malformed _)

end Ipv6

/-! ## TCP -/

namespace Tcp

/-- The fixed part of a header. -/
structure View where
  bytes : List UInt8

namespace View
variable (v : View)

/-- The port of the sender. -/
def sourcePort : Checked UInt16 := word v.bytes 0

/-- The port of the receiver. -/
def destinationPort : Checked UInt16 := word v.bytes 2

/-- The length of the header in 32-bit words, in the upper half of its byte. -/
def dataOffset : Checked UInt8 := return (← index v.bytes 12) >>> 4

/-- The control bits. -/
def flags : Checked UInt8 := index v.bytes 13

/-- Every accessor answers, with the field of the header. -/
structure Shows (h : Header) : Prop where
  sourcePort : v.sourcePort = .ok h.sourcePort
  destinationPort : v.destinationPort = .ok h.destinationPort
  dataOffset : v.dataOffset = .ok h.dataOffset
  flags : v.flags = .ok h.flags

end View

/-- Parses the fixed part of a header. -/
def parse : Parser View := do
  let v := View.mk (← Parser.take "tcp" 20)
  if (← mul (← v.dataOffset).toNat 4) < 20 then
    Parser.reject (.malformed .tcpDataOffset)
  else
    return v

theorem follows_parse : Follows View.Shows parse read := by
  refine .bind (.take "tcp" 20) ?_
  rintro _ field rfl
  have h : field.toList <+: field.toList := List.prefix_refl _
  have hoffset : View.dataOffset ⟨field.toList⟩ = .ok (field[12] >>> 4) := by
    rw [View.dataOffset, index_of_isPrefix h (by decide)]
    rfl
  refine .lift hoffset (.lift (mul_of_small (toNat_small _) (by decide)) ?_)
  rw [Nat.mul_comm]
  by_cases hshort : 4 * (field[12] >>> 4).toNat < 20
  · simp only [if_pos hshort]
    exact .reject (HeaderError.plain_malformed _)
  · simp only [if_neg hshort]
    exact .pure ⟨word_of_isPrefix h (by decide), word_of_isPrefix h (by decide), hoffset,
      index_of_isPrefix h (by decide)⟩

end Tcp

/-! ## UDP -/

namespace Udp

/-- A header. -/
structure View where
  bytes : List UInt8

namespace View
variable (v : View)

/-- The port of the sender. -/
def sourcePort : Checked UInt16 := word v.bytes 0

/-- The port of the receiver. -/
def destinationPort : Checked UInt16 := word v.bytes 2

/-- The length of the datagram, header included. -/
def length : Checked UInt16 := word v.bytes 4

/-- Every accessor answers, with the field of the header. -/
structure Shows (h : Header) : Prop where
  sourcePort : v.sourcePort = .ok h.sourcePort
  destinationPort : v.destinationPort = .ok h.destinationPort
  length : v.length = .ok h.length

end View

/-- Parses a header. -/
def parse : Parser View := return ⟨← Parser.take "udp" 8⟩

theorem follows_parse : Follows View.Shows parse read := by
  refine .bind (.take "udp" 8) ?_
  rintro _ field rfl
  have h : field.toList <+: field.toList := List.prefix_refl _
  exact .pure ⟨word_of_isPrefix h (by decide), word_of_isPrefix h (by decide),
    word_of_isPrefix h (by decide)⟩

end Udp

end IngressGate
