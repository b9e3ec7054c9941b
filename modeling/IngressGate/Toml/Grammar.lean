import IngressGate.Text.Digits
import IngressGate.Toml.Value
/-!
# The grammar of TOML

Reads the text of a document as a list of statements. A reader takes characters and gives what it
read with the characters after it, or `none`. Arrays and inline tables may be nested to a depth of
`maxNesting`.
-/
namespace IngressGate.Toml

/-- What a reader makes of the characters ahead. -/
abbrev Scan (α : Type) := List Char → Option (α × List Char)

namespace Grammar

/-- How deep arrays and inline tables may be nested, and how long a dotted key may be. -/
def maxNesting : Nat := 79

/-- Blanks inside a line. -/
def isBlank (c : Char) : Bool := c = ' ' ∨ c = '\t'

/-- The characters of comments. -/
def isCommentChar (c : Char) : Bool :=
  c = '\t' ∨ (0x20 ≤ c.toNat ∧ c.toNat ≠ 0x7F)

/-- The characters of keys without quotes. -/
def isBareChar (c : Char) : Bool := c.isAlphanum ∨ c = '_' ∨ c = '-'

/-- The characters that stand for themselves between double quotes. -/
def isBasicChar (c : Char) : Bool := isCommentChar c ∧ c ≠ '"' ∧ c ≠ '\\'

/-- The characters between single quotes. -/
def isLiteralChar (c : Char) : Bool := isCommentChar c ∧ c ≠ '\''

/-- Skips blanks. -/
def skipBlanks (cs : List Char) : List Char := cs.dropWhile isBlank

/-- Removes one character. -/
def char? (c : Char) : List Char → Option (List Char)
  | c' :: cs => if c' = c then some cs else none
  | [] => none

/-- Removes a line ending. -/
def newline? : List Char → Option (List Char)
  | '\n' :: cs => some cs
  | '\r' :: '\n' :: cs => some cs
  | _ => none

/-- Removes a line ending, if there is one. -/
def skipNewline (cs : List Char) : List Char := (newline? cs).getD cs

/-- Removes blanks and a comment up to the end of the line, and the end itself. -/
def lineEnd? (cs : List Char) : Option (List Char) :=
  let cs := skipBlanks cs
  let cs := if cs.head? = some '#' then cs.tail.dropWhile isCommentChar else cs
  if cs.isEmpty then some [] else newline? cs

/-- Skips blanks, line endings and comments. -/
def skipSpace : (inComment : Bool) → List Char → List Char
  | false, ' ' :: cs => skipSpace false cs
  | false, '\t' :: cs => skipSpace false cs
  | false, '#' :: cs => skipSpace true cs
  | _, '\n' :: cs => skipSpace false cs
  | _, '\r' :: '\n' :: cs => skipSpace false cs
  | true, c :: cs => if isCommentChar c then skipSpace true cs else c :: cs
  | _, cs => cs

/-! ## Strings -/

/-- The character with the code point that hexadecimal digits write. -/
def codePoint? (digits : List Char) : Option Char :=
  let n := Text.natOfDigits 16 digits
  if digits.all Text.isHexDigit ∧ n.isValidChar then some (Char.ofNat n) else none

/-- The character that a one-letter escape stands for. -/
def escape? : Char → Option Char
  | 'b' => some '\x08'
  | 't' => some '\t'
  | 'n' => some '\n'
  | 'f' => some '\x0c'
  | 'r' => some '\r'
  | '"' => some '"'
  | '\\' => some '\\'
  | _ => none

/-- Reads the rest of a string between double quotes. -/
def basic : Scan (List Char)
  | '"' :: cs => some ([], cs)
  | '\\' :: 'u' :: a :: b :: c :: d :: cs => do
    let x ← codePoint? [a, b, c, d]
    let (xs, cs) ← basic cs
    return (x :: xs, cs)
  | '\\' :: 'U' :: a :: b :: c :: d :: e :: f :: g :: h :: cs => do
    let x ← codePoint? [a, b, c, d, e, f, g, h]
    let (xs, cs) ← basic cs
    return (x :: xs, cs)
  | '\\' :: e :: cs => do
    let x ← escape? e
    let (xs, cs) ← basic cs
    return (x :: xs, cs)
  | c :: cs =>
    if isBasicChar c then do
      let (xs, cs) ← basic cs
      return (c :: xs, cs)
    else none
  | [] => none

/-- Whether only blanks stand between here and the end of the line. -/
def isLineRest (cs : List Char) : Bool := (newline? (skipBlanks cs)).isSome

/-- Reads the rest of a string between triple double quotes, of which up to two may stand before the
closing ones. After a backslash at the end of a line, blanks and line endings are skipped. -/
def multilineBasic : (skipping : Bool) → Scan (List Char)
  | true, ' ' :: cs => multilineBasic true cs
  | true, '\t' :: cs => multilineBasic true cs
  | true, '\n' :: cs => multilineBasic true cs
  | true, '\r' :: '\n' :: cs => multilineBasic true cs
  | _, '"' :: '"' :: '"' :: '"' :: '"' :: cs => some (['"', '"'], cs)
  | _, '"' :: '"' :: '"' :: '"' :: cs => some (['"'], cs)
  | _, '"' :: '"' :: '"' :: cs => some ([], cs)
  | _, '"' :: cs => do
    let (xs, cs) ← multilineBasic false cs
    return ('"' :: xs, cs)
  | _, '\\' :: 'u' :: a :: b :: c :: d :: cs => do
    let x ← codePoint? [a, b, c, d]
    let (xs, cs) ← multilineBasic false cs
    return (x :: xs, cs)
  | _, '\\' :: 'U' :: a :: b :: c :: d :: e :: f :: g :: h :: cs => do
    let x ← codePoint? [a, b, c, d, e, f, g, h]
    let (xs, cs) ← multilineBasic false cs
    return (x :: xs, cs)
  | _, '\\' :: e :: cs =>
    if isLineRest (e :: cs) then multilineBasic true (e :: cs)
    else do
      let x ← escape? e
      let (xs, cs) ← multilineBasic false cs
      return (x :: xs, cs)
  | _, '\n' :: cs => do
    let (xs, cs) ← multilineBasic false cs
    return ('\n' :: xs, cs)
  | _, '\r' :: '\n' :: cs => do
    let (xs, cs) ← multilineBasic false cs
    return ('\n' :: xs, cs)
  | _, c :: cs =>
    if isBasicChar c then do
      let (xs, cs) ← multilineBasic false cs
      return (c :: xs, cs)
    else none
  | _, [] => none

/-- Reads the rest of a string between single quotes. -/
def literal : Scan (List Char)
  | '\'' :: cs => some ([], cs)
  | c :: cs =>
    if isLiteralChar c then do
      let (xs, cs) ← literal cs
      return (c :: xs, cs)
    else none
  | [] => none

/-- Reads the rest of a string between triple single quotes, of which up to two may stand before the
closing ones. -/
def multilineLiteral : Scan (List Char)
  | '\'' :: '\'' :: '\'' :: '\'' :: '\'' :: cs => some (['\'', '\''], cs)
  | '\'' :: '\'' :: '\'' :: '\'' :: cs => some (['\''], cs)
  | '\'' :: '\'' :: '\'' :: cs => some ([], cs)
  | '\n' :: cs => do
    let (xs, cs) ← multilineLiteral cs
    return ('\n' :: xs, cs)
  | '\r' :: '\n' :: cs => do
    let (xs, cs) ← multilineLiteral cs
    return ('\n' :: xs, cs)
  | c :: cs =>
    if isCommentChar c then do
      let (xs, cs) ← multilineLiteral cs
      return (c :: xs, cs)
    else none
  | [] => none

/-- Reads a string of any of the four forms. -/
def string : Scan String := fun cs => do
  let (xs, cs) ←
    match cs with
    | '"' :: '"' :: '"' :: cs => multilineBasic false (skipNewline cs)
    | '"' :: cs => basic cs
    | '\'' :: '\'' :: '\'' :: cs => multilineLiteral (skipNewline cs)
    | '\'' :: cs => literal cs
    | _ => none
  return (String.ofList xs, cs)

/-! ## Keys -/

/-- Reads one part of a dotted key. -/
def simpleKey : Scan String
  | '"' :: cs => (basic cs).map fun (xs, cs) => (String.ofList xs, cs)
  | '\'' :: cs => (literal cs).map fun (xs, cs) => (String.ofList xs, cs)
  | cs =>
    let xs := cs.takeWhile isBareChar
    if xs.isEmpty then none else some (String.ofList xs, cs.drop xs.length)

/-- Reads the parts of a dotted key, at most `limit`, with the blanks around them. -/
def keyParts : (limit : Nat) → Scan (List String)
  | 0, _ => none
  | limit + 1, cs => do
    let (k, cs) ← simpleKey (skipBlanks cs)
    match skipBlanks cs with
    | '.' :: cs =>
      let (ks, cs) ← keyParts limit cs
      return (k :: ks, cs)
    | cs => return ([k], cs)

/-- Reads a dotted key: its path and its last part. -/
def key : Scan (List String × String) := fun cs => do
  let (ks, cs) ← keyParts maxNesting cs
  let last ← ks.getLast?
  return ((ks.dropLast, last), cs)

/-! ## Numbers and dates -/

/-- Reads the rest of a run of digits in which single underscores may stand between digits. -/
def moreDigits (isDigit : Char → Bool) : Scan (List Char)
  | '_' :: c :: cs =>
    if isDigit c then do
      let (ds, cs) ← moreDigits isDigit cs
      return (c :: ds, cs)
    else none
  | ['_'] => none
  | c :: cs =>
    if isDigit c then do
      let (ds, cs) ← moreDigits isDigit cs
      return (c :: ds, cs)
    else some ([], c :: cs)
  | [] => some ([], [])

/-- Reads a run of digits. -/
def digits (isDigit : Char → Bool) : Scan (List Char)
  | c :: cs =>
    if isDigit c then do
      let (ds, cs) ← moreDigits isDigit cs
      return (c :: ds, cs)
    else none
  | [] => none

/-- Reads a run of decimal digits that has no needless zero in front. -/
def wholeDigits : Scan (List Char)
  | '0' :: cs => some (['0'], cs)
  | cs => digits Char.isDigit cs

/-- Reads a sign: whether it is a minus. -/
def sign : List Char → Bool × List Char
  | '+' :: cs => (false, cs)
  | '-' :: cs => (true, cs)
  | cs => (false, cs)

/-- The integer, if it fits into 64 bits. -/
def integer? (n : Int) : Option Value :=
  if -9223372036854775808 ≤ n ∧ n ≤ 9223372036854775807 then some (.integer n) else none

/-- Reads an integer in another base, behind its mark. -/
def radixInteger (base : Nat) (isDigit : Char → Bool) : Scan Value := fun cs => do
  let (ds, cs) ← digits isDigit cs
  return (← integer? (Text.natOfDigits base ds), cs)

/-- Reads the part of a number behind a point, if there is one. -/
def fractionPart : Scan (List Char)
  | '.' :: cs => digits Char.isDigit cs
  | cs => some ([], cs)

/-- Reads the exponent of a number, if there is one. -/
def exponentPart : Scan Int := fun cs =>
  match cs with
  | c :: rest =>
    if c = 'e' ∨ c = 'E' then do
      let (negative, rest) := sign rest
      let (ds, rest) ← digits Char.isDigit rest
      let n := Text.natOfDigits 10 ds
      return (if negative then -(n : Int) else n, rest)
    else some (0, cs)
  | [] => some (0, cs)

/-- Reads a decimal number; it is a floating-point number if it has a point or an exponent. -/
def decimal (negative : Bool) : Scan Value := fun cs => do
  let (whole, afterWhole) ← wholeDigits cs
  let (fraction, rest) ← fractionPart afterWhole
  let (exponent, rest) ← exponentPart rest
  if rest.length = afterWhole.length then
    let n : Int := Text.natOfDigits 10 whole
    return (← integer? (if negative then -n else n), afterWhole)
  else
    let n := Text.natOfDigits 10 (whole ++ fraction)
    let r := Real.finite negative n (exponent - fraction.length)
    if r.isTooLarge ∧ !negative then none else some (.real r, rest)

/-- Reads a number with or without a sign. -/
def number : Scan Value := fun cs =>
  match cs with
  | '0' :: 'x' :: cs => radixInteger 16 Text.isHexDigit cs
  | '0' :: 'o' :: cs => radixInteger 8 (fun c => '0' ≤ c ∧ c ≤ '7') cs
  | '0' :: 'b' :: cs => radixInteger 2 (fun c => c = '0' ∨ c = '1') cs
  | cs =>
    match sign cs with
    | (negative, 'i' :: 'n' :: 'f' :: rest) => some (.real (.infinite negative), rest)
    | (_, 'n' :: 'a' :: 'n' :: rest) => some (.real .notANumber, rest)
    | (negative, rest) => decimal negative rest

/-- The number that two digits write. -/
def twoDigits? (a b : Char) : Option Nat :=
  if a.isDigit ∧ b.isDigit then some (Text.natOfDigits 10 [a, b]) else none

/-- Reads the colon and the two digits of a minute. -/
def minutePart : Scan Nat
  | ':' :: a :: b :: cs => do
    let n ← twoDigits? a b
    if n ≤ 59 then some (n, cs) else none
  | _ => none

/-- Reads the two digits of an hour. -/
def hourPart : Scan Nat
  | a :: b :: cs => do
    let n ← twoDigits? a b
    if n ≤ 23 then some (n, cs) else none
  | _ => none

/-- Reads the colon and the two digits of a second, which may be a leap second. -/
def secondPart : Scan Nat
  | ':' :: a :: b :: cs => do
    let n ← twoDigits? a b
    if n ≤ 60 then some (n, cs) else none
  | _ => none

/-- Skips a fraction of a second, if there is one. -/
def skipFraction : List Char → List Char
  | '.' :: d :: cs => if d.isDigit then cs.dropWhile Char.isDigit else '.' :: d :: cs
  | cs => cs

/-- Skips a time of day; `none` if there is none. -/
def time? (cs : List Char) : Option (List Char) := do
  let (_, cs) ← hourPart cs
  let (_, cs) ← minutePart cs
  let (_, cs) ← secondPart cs
  return skipFraction cs

/-- Skips the offset of a time from universal time, if there is one. -/
def skipOffset (cs : List Char) : List Char :=
  match cs with
  | 'Z' :: rest => rest
  | 'z' :: rest => rest
  | c :: rest =>
    if c = '+' ∨ c = '-' then
      match (do let (_, rest) ← hourPart rest; minutePart rest) with
      | some (_, rest) => rest
      | none => cs
    else cs
  | [] => cs

/-- How many days a month has. -/
def daysOfMonth (year month : Nat) : Nat :=
  if month = 2 then
    if year % 4 = 0 ∧ (year % 100 ≠ 0 ∨ year % 400 = 0) then 29 else 28
  else if month = 4 ∨ month = 6 ∨ month = 9 ∨ month = 11 then 30
  else 31

/-- Skips a calendar date; `none` if there is none. -/
def date? : List Char → Option (List Char)
  | y₁ :: y₂ :: y₃ :: y₄ :: '-' :: m₁ :: m₂ :: '-' :: d₁ :: d₂ :: cs => do
    let century ← twoDigits? y₁ y₂
    let year ← twoDigits? y₃ y₄
    let month ← twoDigits? m₁ m₂
    let day ← twoDigits? d₁ d₂
    let last := daysOfMonth (100 * century + year) month
    if 1 ≤ month ∧ month ≤ 12 ∧ 1 ≤ day ∧ day ≤ last then some cs else none
  | _ => none

/-- Whether a character may stand between a date and a time. -/
def isTimeMark (c : Char) : Bool := c = 'T' ∨ c = 't' ∨ c = ' '

/-- Skips a date, a time, or a date with a time and perhaps an offset; `none` if there is none. -/
def datetime? (cs : List Char) : Option (List Char) :=
  match date? cs with
  | none => time? cs
  | some rest =>
    match rest with
    | c :: afterMark =>
      if isTimeMark c then
        match time? afterMark with
        | some rest => some (skipOffset rest)
        | none => some rest
      else some rest
    | [] => some []

/-! ## Values -/

/-- Reads the rest of an array: items with commas between and perhaps behind, up to the bracket.
There are at most `fuel` items. -/
def arrayItems (item : Scan Value) : (fuel : Nat) → Scan (List Value)
  | 0, _ => none
  | fuel + 1, cs =>
    match skipSpace false cs with
    | ']' :: cs => some ([], cs)
    | cs => do
      let (v, cs) ← item cs
      match skipSpace false cs with
      | ']' :: cs => return ([v], cs)
      | ',' :: cs =>
        let (vs, cs) ← arrayItems item fuel cs
        return (v :: vs, cs)
      | _ => none

/-- Reads a key and, behind an equals sign, its value. -/
def assignment (item : Scan Value) : Scan (List String × String × Value) := fun cs => do
  let ((path, k), cs) ← key cs
  let cs ← char? '=' cs
  let (v, cs) ← item (skipBlanks cs)
  return ((path, k, v), cs)

/-- Reads the rest of an inline table: assignments with commas between, up to the brace. There are
at most `fuel` assignments, which come on top of `entries`. -/
def inlineEntries (item : Scan Value) : (fuel : Nat) → (entries : Entries) → Scan Entries
  | 0, _, _ => none
  | fuel + 1, entries, cs => do
    let ((path, k, v), cs) ← assignment item cs
    let entries ← entries.assign path k v
    match skipBlanks cs with
    | '}' :: cs => return (entries, cs)
    | ',' :: cs => inlineEntries item fuel entries cs
    | _ => none

/-- Reads a value in which arrays and inline tables are nested at most `depth` deep. -/
def value : (depth : Nat) → Scan Value
  | 0, '[' :: _ => none
  | 0, '{' :: _ => none
  | depth + 1, '[' :: cs => do
    let (vs, cs) ← arrayItems (value depth) (cs.length + 1) cs
    return (.array vs, cs)
  | depth + 1, '{' :: cs =>
    match skipBlanks cs with
    | '}' :: cs => some (.table .inline [], cs)
    | cs => do
      let (es, cs) ← inlineEntries (value depth) (cs.length + 1) [] cs
      return (.table .inline es, cs)
  | _, 't' :: 'r' :: 'u' :: 'e' :: cs => some (.boolean true, cs)
  | _, 'f' :: 'a' :: 'l' :: 's' :: 'e' :: cs => some (.boolean false, cs)
  | _, cs =>
    if cs.head? = some '"' ∨ cs.head? = some '\'' then
      (string cs).map fun (s, cs) => (.string s, cs)
    else
      match datetime? cs with
      | some cs => some (.datetime, cs)
      | none => number cs

/-! ## Statements -/

/-- Reads the rest of a header behind its opening brackets, up to the end of the line. -/
def header (close : List Char → Option (List Char)) : Scan (List String × String) := fun cs => do
  let (k, cs) ← key cs
  let cs ← close cs
  let cs ← lineEnd? cs
  return (k, cs)

/-- Reads the next statement; there is none on an empty line. -/
def statement : Scan (Option Statement) := fun cs =>
  match skipBlanks cs with
  | '#' :: cs => do return (none, ← lineEnd? ('#' :: cs))
  | '\n' :: cs => some (none, cs)
  | '\r' :: '\n' :: cs => some (none, cs)
  | '[' :: '[' :: cs => do
    let ((path, k), cs) ← header (fun cs => do char? ']' (← char? ']' cs)) cs
    return (some (.openElement path k), cs)
  | '[' :: cs => do
    let ((path, k), cs) ← header (char? ']') cs
    return (some (.openTable path k), cs)
  | cs => do
    let ((path, k, v), cs) ← assignment (value maxNesting) cs
    return (some (.assign path k v), ← lineEnd? cs)

/-- Reads all statements, of which there are at most `fuel`, empty ones included. -/
def statements : (fuel : Nat) → List Char → Option (List Statement)
  | 0, _ => none
  | fuel + 1, cs =>
    if (skipBlanks cs).isEmpty then some []
    else do
      let (s, cs) ← statement cs
      let rest ← statements fuel cs
      return s.toList ++ rest

end Grammar

/-- The entries of the document that a text writes; `none` if the text is not a document. -/
def parse? (text : String) : Option Entries := do
  let cs := text.toList
  let cs := if cs.head? = some '\uFEFF' then cs.tail else cs
  Draft.ofStatements? (← Grammar.statements (cs.length + 1) cs)

end IngressGate.Toml
