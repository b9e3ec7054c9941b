import IngressGate.Text.CaseData
/-!
# Lower case

`lowercase` maps every character to its lower-case form by the rules of the Unicode standard that
depend on no language: a dotted capital I keeps its dot as a combining mark, and a capital sigma at
the end of a word becomes a final sigma.
-/
namespace IngressGate.Text

/-- Whether a code point lies in one of the ranges. -/
def inRanges (ranges : List (Nat × Nat)) (n : Nat) : Bool :=
  ranges.any fun r => r.1 ≤ n ∧ n ≤ r.2

/-- Whether a run of mappings has an entry for `n`. -/
def CaseRun.covers (r : CaseRun) (n : Nat) : Bool :=
  r.first ≤ n ∧ n ≤ r.last ∧ (n - r.first) % r.stride = 0

/-- The lower-case form of a character outside any context. -/
def lowerChar (c : Char) : List Char :=
  if c.toNat < 0x80 then [c.toLower]
  else if c = 'İ' then ['i', '\u0307']
  else
    match lowerRuns.find? (·.covers c.toNat) with
    | some r => [Char.ofNat ((c.toNat : Int) + r.offset).toNat]
    | none => [c]

/-- Whether, past the characters that case ignores, the next one is a cased letter. -/
def meetsCased (cs : List Char) : Bool :=
  match cs.dropWhile fun c => inRanges caseIgnorableRanges c.toNat with
  | [] => false
  | c :: _ => inRanges casedRanges c.toNat

/-- The lower-case form of `cs`, where `before` is what stands in front of it, nearest first. -/
def lowerChars : (before : List Char) → (cs : List Char) → List Char
  | _, [] => []
  | before, c :: cs =>
    let here :=
      if c = 'Σ' then (if meetsCased before && !meetsCased cs then ['ς'] else ['σ'])
      else lowerChar c
    here ++ lowerChars (c :: before) cs

/-- The lower-case form of a text. -/
def lowercase (s : String) : String := String.ofList (lowerChars [] s.toList)

end IngressGate.Text
