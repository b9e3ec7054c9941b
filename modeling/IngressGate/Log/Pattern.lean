import IngressGate.Text.Blank
import IngressGate.Text.Digits
import IngressGate.Text.Letter
/-!
# Patterns

The regular expressions that a directive may match the value of a field with. An entry outside spans
has no value that is looked at, so all there is to decide is whether a text is a pattern.

Classes that the Unicode standard names, and case folding beyond ASCII, are not on offer, and what a
pattern matches is always valid UTF-8; a pattern that needs more is malformed. The fields of a
directive end at the first closing brace, so a count or an escape between braces is never complete.
-/
namespace IngressGate.Log

/-- Why a text is not a pattern. -/
inductive PatternError
  | malformed
  /-- It looks for edges of words in the sense of Unicode. -/
  | unsupported
  deriving DecidableEq, Repr

/-- The wording of the error. -/
def PatternError.message : PatternError → String
  | malformed => "error building NFA"
  | unsupported =>
    "unsupported regex feature for DFAs: cannot build DFAs for regexes with Unicode word " ++
      "boundaries; switch to ASCII word boundaries, or heuristically enable Unicode word " ++
      "boundaries or use a different regex engine"

namespace Pattern

/-- The switches of a pattern that bear on what may stand in it. -/
structure Mode where
  /-- Whether the pattern is about characters and not about bytes. -/
  unicode : Bool := true
  /-- Whether letters of either case match. -/
  anyCase : Bool := false
  /-- Whether white space and comments are skipped. -/
  loose : Bool := false

/-- How far the reading of a pattern has come. -/
structure State where
  rest : List Char
  mode : Mode := {}
  /-- The names of the groups so far. -/
  names : List String := []
  /-- Whether the pattern looks for edges of words in the sense of Unicode. -/
  seeksWords : Bool := false

/-- Reads a part of a pattern; there is no result if the pattern is malformed. -/
abbrev Reader := StateT State Option

/-- How deep the parts of a pattern may be nested. -/
def maxNesting : Nat := 250

/-- The depth of something made of parts with depths `ds`: a single part stands for itself. -/
def nest : (ds : List Nat) → Nat
  | [] => 0
  | [d] => d
  | ds => ds.foldl max 0 + 1

/-! ## Characters -/

/-- Takes the next character. -/
def next : Reader Char := do
  let s ← get
  match s.rest with
  | c :: cs => do
    set { s with rest := cs }
    return c
  | [] => failure

/-- The characters ahead. -/
def ahead : Reader (List Char) := return (← get).rest

/-- Goes on behind the first `n` characters. -/
def advance (n : Nat) : Reader Unit := modify fun s => { s with rest := s.rest.drop n }

/-- What is left of `cs` behind white space and comments, which reach to the end of their line. -/
def skipComments : (inComment : Bool) → (cs : List Char) → List Char
  | _, [] => []
  | true, c :: cs => skipComments (c ≠ '\n') cs
  | false, c :: cs =>
    if Text.isBlank c then skipComments false cs
    else if c = '#' then skipComments true cs
    else c :: cs

/-- Skips white space and comments where they do not count. -/
def skipBlanks : Reader Unit :=
  modify fun s => if s.mode.loose then { s with rest := skipComments false s.rest } else s

/-- Lets a character stand outside a class. `asByte` is for one written with two hexadecimal
digits, which stands for a byte in a pattern about bytes. -/
def admitCharacter (c : Char) (asByte : Bool) : Reader Unit := do
  let mode := (← get).mode
  if mode.unicode then guard !mode.anyCase else guard !(asByte && 0x80 ≤ c.toNat)

/-- Lets a class have members. -/
def admitMembers : Reader Unit := do
  let mode := (← get).mode
  guard !(mode.unicode && mode.anyCase)

/-- Lets a character be a member of a class. -/
def admitMember (c : Char) : Reader Unit := do
  admitMembers
  guard ((← get).mode.unicode || c.toNat < 0x80)

/-- Lets a part stand in a pattern that matches all characters but some of ASCII. -/
def admitComplement : Reader Unit := do guard (← get).mode.unicode

/-- Lets the class of digits, white space or word characters stand in a pattern, or the class of all
others. -/
def admitShorthand (negated : Bool) : Reader Unit := do guard !((← get).mode.unicode || negated)

/-! ## Escapes -/

/-- What an escape stands for. -/
inductive Escape
  | character (c : Char) (asByte : Bool)
  | shorthand (negated : Bool)
  | wordEdge
  | textEdge

/-- Reads `n` hexadecimal digits. -/
def readDigits : (n : Nat) → Reader (List Char)
  | 0 => return []
  | n + 1 => do
    skipBlanks
    let d ← next
    guard (Text.isHexDigit d)
    return d :: (← readDigits n)

/-- Reads the character that `n` hexadecimal digits write. -/
def readCodePoint (n : Nat) : Reader Char := do
  let value := Text.natOfDigits 16 (← readDigits n)
  guard value.isValidChar
  return Char.ofNat value

/-- Reads an escape from behind its backslash. Punctuation stands for itself, apart from the angle
brackets; letters and digits without a meaning of their own are refused. -/
def readEscape : Reader Escape := do
  match ← next with
  | 'x' => return .character (← readCodePoint 2) true
  | 'u' => return .character (← readCodePoint 4) false
  | 'U' => return .character (← readCodePoint 8) false
  | 'd' | 's' | 'w' => return .shorthand false
  | 'D' | 'S' | 'W' => return .shorthand true
  | 'A' | 'z' => return .textEdge
  | 'b' | 'B' | '<' | '>' => return .wordEdge
  | 'a' => return .character '\x07' false
  | 't' => return .character '\t' false
  | 'n' => return .character '\n' false
  | 'v' => return .character '\x0b' false
  | 'f' => return .character '\x0c' false
  | 'r' => return .character '\r' false
  | c => do
    guard (c.toNat < 0x80 && !c.isAlphanum)
    return .character c false

/-! ## Classes -/

/-- The names of the classes of ASCII characters. -/
def asciiClassNames : List String :=
  ["alnum", "alpha", "ascii", "blank", "cntrl", "digit", "graph", "lower", "print", "punct",
    "space", "upper", "word", "xdigit"]

/-- Whether a named class such as `[:alpha:]` at the head of `cs` is negated, with what stands
behind it. -/
def asciiClass? : (cs : List Char) → Option (Bool × List Char)
  | '[' :: ':' :: cs =>
    let negated := cs.head? = some '^'
    let cs := if negated then cs.tail else cs
    let name := cs.takeWhile (· ≠ ':')
    match cs.drop name.length with
    | ':' :: ']' :: cs =>
      if String.ofList name ∈ asciiClassNames then some (negated, cs) else none
    | _ => none
  | _ => none

/-- Reads a member of a class. -/
def readMember : Reader Escape := do
  match ← next with
  | '\\' => readEscape
  | c => return .character c false

/-- The character that decides what a hyphen in front of `cs` means. Of a comment, only the sign
that opens it is skipped. -/
def decisive? (loose : Bool) (cs : List Char) : Option Char :=
  if loose then
    let found :=
      match cs.dropWhile Text.isBlank with
      | '#' :: cs => (cs.dropWhile Text.isBlank).head?
      | cs => cs.head?
    found <|> cs.head?
  else cs.head?

/-- Whether a hyphen ahead makes a range of the member in front of it. -/
def startsRange (s : State) : Bool :=
  match s.rest with
  | '-' :: cs => decisive? s.mode.loose cs ≠ some ']' ∧ decisive? s.mode.loose cs ≠ some '-'
  | _ => false

/-- Reads a member of a class or a range of characters. -/
def readRange : Reader Unit := do
  let first ← readMember
  skipBlanks
  if startsRange (← get) then
    advance 1
    skipBlanks
    match first, ← readMember with
    | .character a _, .character b _ => do
      guard (a ≤ b)
      admitMember a
      admitMember b
    | _, _ => failure
  else
    match first with
    | .character c _ => admitMember c
    | .shorthand negated => admitShorthand negated
    | _ => failure

/-- Takes up to `n` hyphens and counts them. -/
def takeHyphens : (n : Nat) → Reader Nat
  | 0 => return 0
  | n + 1 => do
    if (← ahead).head? = some '-' then
      advance 1
      skipBlanks
      return (← takeHyphens n) + 1
    else return 0

/-- Reads the opening of a class, with the hyphens or the bracket that are members of it because
they come first, and counts these members. -/
def openClass : Reader Nat := do
  advance 1
  skipBlanks
  if (← ahead).head? = some '^' then
    admitComplement
    advance 1
    skipBlanks
  let hyphens ← takeHyphens (← ahead).length
  if hyphens ≠ 0 then
    admitMember '-'
    return hyphens
  else if (← ahead).head? = some ']' then
    admitMember ']'
    advance 1
    skipBlanks
    return 1
  else return 0

/-- The depth of what stands in a class: `left` is that of what stands in front of the last
operator, `members` has those of the members behind it. -/
def classDepth (left : Option Nat) (members : List Nat) : Nat :=
  match left with
  | none => nest members
  | some l => max l (nest members) + 1

/-- Reads the rest of a class and finds its depth. `left` is the depth of what stands in front of
the last operator, `members` has the depths of the members behind it. -/
def readClass : (fuel : Nat) → (left : Option Nat) → (members : List Nat) → Reader Nat
  | 0, _, _ => failure
  | fuel + 1, left, members => do
    skipBlanks
    match ← ahead with
    | [] => failure
    | ']' :: _ => do
      advance 1
      return classDepth left members
    | '[' :: cs => do
      match asciiClass? ('[' :: cs) with
      | some (negated, rest) => do
        if negated then admitComplement
        admitMembers
        modify fun s => { s with rest }
        readClass fuel left (0 :: members)
      | none => do
        let first ← openClass
        let d ← readClass fuel none (List.replicate first 0)
        readClass fuel left ((d + 1) :: members)
    | '&' :: '&' :: _ | '-' :: '-' :: _ | '~' :: '~' :: _ => do
      advance 2
      readClass fuel (some (classDepth left members)) []
    | _ => do
      readRange
      readClass fuel left (0 :: members)

/-! ## Groups -/

/-- What an opening parenthesis begins. -/
inductive Opening
  /-- A group with switches of its own. -/
  | group (mode : Mode)
  /-- Switches for the rest of the group that they stand in. -/
  | switches (mode : Mode)

/-- Whether `name` can be the name of a group. -/
def isGroupName : (name : List Char) → Bool
  | [] => false
  | c :: cs =>
    (c = '_' || Text.isLetter c) &&
      cs.all fun c => c ∈ ['_', '.', '[', ']'] || Text.isLetter c || Text.isNumber c

/-- Reads the name of a group up to its closing bracket; no two groups have the same one. -/
def readGroupName (cs : List Char) : Reader Unit := do
  let name := cs.takeWhile (· ≠ '>')
  let s ← get
  match cs.drop name.length with
  | '>' :: rest => do
    guard (isGroupName name && String.ofList name ∉ s.names)
    set { s with rest, names := String.ofList name :: s.names }
  | _ => failure

/-- Whether `word` is a list of switches, perhaps with some to turn off behind a hyphen. -/
def isSwitches (word : List Char) : Bool :=
  word.all (· ∈ ['i', 'm', 's', 'U', 'u', 'R', 'x', '-']) ∧ word.Nodup ∧ word.getLast? ≠ some '-'

/-- The switches after those that `word` turns on, and off behind its hyphen. -/
def Mode.after (m : Mode) (word : List Char) : Mode :=
  let on := word.takeWhile (· ≠ '-')
  let turned (c : Char) (old : Bool) : Bool := if c ∈ on then true else old && c ∉ word
  ⟨turned 'u' m.unicode, turned 'i' m.anyCase, turned 'x' m.loose⟩

/-- Reads what comes behind a parenthesis and a question mark. -/
def readSwitches (cs : List Char) : Reader Opening := do
  let word := cs.takeWhile fun c => c ≠ ':' ∧ c ≠ ')'
  guard (isSwitches word)
  let s ← get
  match cs.drop word.length with
  | ':' :: rest => do
    set { s with rest }
    return .group (s.mode.after word)
  | _ :: rest => do
    guard !word.isEmpty
    set { s with rest }
    return .switches (s.mode.after word)
  | [] => failure

/-- Reads the opening of a group, or switches that stand alone. -/
def readOpening : Reader Opening := do
  advance 1
  skipBlanks
  let mode := (← get).mode
  match ← ahead with
  | '?' :: 'P' :: '<' :: cs => do
    readGroupName cs
    return .group mode
  | '?' :: '<' :: cs => do
    readGroupName cs
    return .group mode
  | '?' :: cs => readSwitches cs
  | _ => return .group mode

/-! ## Sequences -/

/-- A part of a sequence: how deeply it is nested, and whether it can be repeated. -/
structure Part where
  depth : Nat
  repeatable : Bool

/-- The depth of a sequence. -/
def sequenceDepth (parts : List Part) : Nat := nest (parts.map (·.depth))

/-- Reads a part that is neither a group nor a class. -/
def readSimple : Reader Unit := do
  match ← next with
  | '\\' => do
    match ← readEscape with
    | .character c asByte => admitCharacter c asByte
    | .shorthand negated => admitShorthand negated
    | .wordEdge => modify fun s => { s with seeksWords := s.seeksWords || s.mode.unicode }
    | .textEdge => return
  | '.' => admitComplement
  | '^' | '$' => return
  | c => admitCharacter c false

/-- Reads alternatives up to the end of their group or of the pattern and finds their depth.
`alternatives` has the depths of those that are complete, `parts` the parts of the one at hand, the
last one first. -/
def readAlternatives :
    (fuel : Nat) → (alternatives : List Nat) → (parts : List Part) → Reader Nat
  | 0, _, _ => failure
  | fuel + 1, alternatives, parts => do
    skipBlanks
    match ← ahead with
    | [] | ')' :: _ => return nest (sequenceDepth parts :: alternatives)
    | '|' :: _ => do
      advance 1
      readAlternatives fuel (sequenceDepth parts :: alternatives) []
    | '(' :: _ => do
      let outer := (← get).mode
      match ← readOpening with
      | .switches mode => do
        modify fun s => { s with mode }
        readAlternatives fuel alternatives (⟨0, false⟩ :: parts)
      | .group mode => do
        modify fun s => { s with mode }
        let d ← readAlternatives fuel [] []
        let close ← next
        guard (close = ')')
        modify fun s => { s with mode := outer }
        readAlternatives fuel alternatives (⟨d + 1, true⟩ :: parts)
    | '[' :: _ => do
      let first ← openClass
      let d ← readClass (← ahead).length none (List.replicate first 0)
      readAlternatives fuel alternatives (⟨d + 1, true⟩ :: parts)
    | '?' :: _ | '*' :: _ | '+' :: _ => do
      advance 1
      if (← ahead).head? = some '?' then advance 1
      match parts with
      | ⟨d, true⟩ :: before => readAlternatives fuel alternatives (⟨d + 1, true⟩ :: before)
      | _ => failure
    | '\x7b' :: _ => failure
    | _ => do
      readSimple
      readAlternatives fuel alternatives (⟨0, true⟩ :: parts)

/-- Reads a whole pattern. -/
def readAll : Reader Unit := do
  let d ← readAlternatives ((← ahead).length + 1) [] []
  guard ((← ahead).isEmpty && d ≤ maxNesting)

/-- Checks that a text is a pattern. -/
def check (text : String) : Except PatternError Unit :=
  match readAll.run { rest := text.toList : State } with
  | none => .error .malformed
  | some (_, s) => if s.seeksWords then .error .unsupported else .ok ()

end Pattern

end IngressGate.Log
