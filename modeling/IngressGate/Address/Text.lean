import IngressGate.Address
import IngressGate.Bytes
import IngressGate.Text.Digits
/-!
# Addresses as text

`Address.ofText?` accepts the dotted form `a.b.c.d`, in which no octet has a leading zero, and the
colon form, in which `::` stands once for one or more zero groups and the last two groups may be
written dotted. `Address.text` writes the longest run of two or more zero groups as `::`, the first
of equal runs, and the addresses that map an IPv4 address with their dotted end.
-/
namespace IngressGate

namespace MacAddress

/-- Six bytes in hexadecimal, with colons between. -/
def text (a : MacAddress) : String :=
  ":".intercalate (a.octets.toList.map fun b => Text.hexPadded 2 b.toNat)

end MacAddress

namespace Ipv4Address

/-- Four decimal octets with points between. -/
def text (a : Ipv4Address) : String := ".".intercalate (a.octets.toList.map fun b => toString b)

/-- Reads a decimal octet: at most three digits, no leading zero, at most 255. -/
def octetOfChars? (cs : List Char) : Option (UInt8 × List Char) :=
  let digits := cs.takeWhile Char.isDigit
  let n := Text.natOfDigits 10 digits
  if digits.isEmpty ∨ 3 < digits.length ∨ 255 < n then none
  else if 1 < digits.length ∧ digits.head? = some '0' then none
  else some (UInt8.ofNat n, cs.drop digits.length)

/-- Reads a point and the octet after it. -/
def pointOctetOfChars? : List Char → Option (UInt8 × List Char)
  | '.' :: cs => octetOfChars? cs
  | _ => none

/-- Reads the dotted form from the start of `cs`. -/
def ofChars? (cs : List Char) : Option (Ipv4Address × List Char) := do
  let (a, cs) ← octetOfChars? cs
  let (b, cs) ← pointOctetOfChars? cs
  let (c, cs) ← pointOctetOfChars? cs
  let (d, cs) ← pointOctetOfChars? cs
  return (ofBytes a b c d, cs)

end Ipv4Address

namespace Ipv6Address

/-- The 16-bit numbers that consecutive pairs of octets write. -/
def groupsOfOctets : List UInt8 → List UInt16
  | hi :: lo :: bs => Bytes.u16 hi lo :: groupsOfOctets bs
  | _ => []

/-- The eight 16-bit groups. -/
def groups (a : Ipv6Address) : List UInt16 := groupsOfOctets a.octets.toList

/-- Reads a group: one to four hexadecimal digits. -/
def groupOfChars? (cs : List Char) : Option (UInt16 × List Char) :=
  let digits := cs.takeWhile Text.isHexDigit
  if digits.isEmpty ∨ 4 < digits.length then none
  else some (UInt16.ofNat (Text.natOfDigits 16 digits), cs.drop digits.length)

/-- Removes the colon that separates a group from the one before it. -/
def separator? (first : Bool) : List Char → Option (List Char)
  | cs => if first then some cs else
    match cs with
    | ':' :: cs => some cs
    | _ => none

/-- Reads groups separated by colons, at most `limit` of them, as far as they go; a dotted form
counts as two groups and ends the run. The second component tells whether one was read. -/
def groupsOfChars : (limit : Nat) → (first : Bool) → List Char → List UInt16 × Bool × List Char
  | 0, _, cs => ([], false, cs)
  | limit + 1, first, cs =>
    match separator? first cs with
    | none => ([], false, cs)
    | some body =>
      match if 0 < limit then Ipv4Address.ofChars? body else none with
      | some (v4, rest) =>
        (Bytes.u16 v4.octets[0] v4.octets[1] :: [Bytes.u16 v4.octets[2] v4.octets[3]], true, rest)
      | none =>
        match groupOfChars? body with
        | none => ([], false, cs)
        | some (group, rest) =>
          let (more, dotted, rest) := groupsOfChars limit false rest
          (group :: more, dotted, rest)

/-- The address with the given groups; there are eight of them in every use. -/
def ofGroupList (gs : List UInt16) : Ipv6Address :=
  ⟨Bytes.padded 16 (gs.flatMap Bytes.ofU16)⟩

/-- Reads the colon form from the start of `cs`. -/
def ofChars? (cs : List Char) : Option (Ipv6Address × List Char) :=
  let (head, dotted, rest) := groupsOfChars 8 true cs
  if head.length = 8 then some (ofGroupList head, rest)
  else if dotted then none
  else
    match rest with
    | ':' :: ':' :: rest =>
      let (tail, _, rest) := groupsOfChars (7 - head.length) true rest
      some (ofGroupList (head ++ List.replicate (8 - head.length - tail.length) 0 ++ tail), rest)
    | _ => none

/-- Groups in lower-case hexadecimal without leading zeros, with colons between. -/
def groupsText (gs : List UInt16) : String :=
  ":".intercalate (gs.map fun g => Text.hex g.toNat)

/-- The length of the run of zeros at the start. -/
def zeroRun (gs : List UInt16) : Nat := (gs.takeWhile (· == 0)).length

/-- Start and length of the longest run of zeros, the first of equal ones. -/
def longestZeroRun (gs : List UInt16) : Nat × Nat :=
  (List.range gs.length).foldl (fun best i =>
    let n := zeroRun (gs.drop i)
    if best.2 < n then (i, n) else best) (0, 0)

/-- The colon form of an address. -/
def text (a : Ipv6Address) : String :=
  let gs := a.groups
  if gs.take 6 = [0, 0, 0, 0, 0, 0xFFFF] then
    "::ffff:" ++ (Ipv4Address.ofBytes a.octets[12] a.octets[13] a.octets[14] a.octets[15]).text
  else
    let (start, n) := longestZeroRun gs
    if 1 < n then groupsText (gs.take start) ++ "::" ++ groupsText (gs.drop (start + n))
    else groupsText gs

end Ipv6Address

namespace Address

/-- The text of an address. -/
def text : Address → String
  | v4 a => a.text
  | v6 a => a.text

/-- Reads an address that takes up the whole of `cs`. -/
def ofChars? (cs : List Char) : Option Address :=
  match Ipv4Address.ofChars? cs with
  | some (a, rest) => if rest.isEmpty then some (v4 a) else none
  | none =>
    match Ipv6Address.ofChars? cs with
    | some (a, rest) => if rest.isEmpty then some (v6 a) else none
    | none => none

/-- Reads an address that takes up the whole text. -/
def ofText? (s : String) : Option Address := ofChars? s.toList

end Address

end IngressGate
