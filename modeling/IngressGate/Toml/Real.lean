/-!
# Binary floating-point numbers and their decimal text

A `Real` is a finite decimal number, an infinity or no number. Finite numbers are rounded to the
nearest double-precision number, a tie to the even one, and written with the fewest digits that
round back to it, positionally and with at least one digit behind the point.
-/
namespace IngressGate.Toml

/-- A floating-point number as it was written: a sign and `digits · 10 ^ exponent`, or a special
value. -/
inductive Real
  | finite (negative : Bool) (digits : Nat) (exponent : Int)
  | infinite (negative : Bool)
  | notANumber
  deriving DecidableEq, Repr

/-- The positive number `mantissa · 2 ^ exponent`. -/
structure Binary where
  mantissa : Nat
  exponent : Int
  deriving DecidableEq, Repr

namespace Binary

/-- The least exponent of a double-precision number. -/
def minExponent : Int := -1074

/-- A fraction `n / d` times a power of a base, as a fraction. -/
def scale (base : Nat) (e : Int) (n d : Nat) : Nat × Nat :=
  if 0 ≤ e then (n * Nat.pow base e.toNat, d) else (n, d * Nat.pow base (-e).toNat)

/-- The quotient rounded to the nearest whole number, a tie to the even one. -/
def roundDiv (n d : Nat) : Nat :=
  let q := n / d
  let r := 2 * (n % d)
  if r < d then q else if d < r then q + 1 else q + q % 2

/-- The same number with at most 53 digits, for a mantissa of no more than `2 ^ 53`. -/
def normalize (b : Binary) : Binary :=
  if b.mantissa = Nat.pow 2 53 then ⟨Nat.pow 2 52, b.exponent + 1⟩ else b

/-- The nearest double-precision number to the positive fraction `n / d`. -/
def nearest (n d : Nat) : Binary :=
  let low := max minExponent ((n.log2 : Int) - d.log2 - 53)
  let (n', d') := scale 2 (-low) n d
  let e := if Nat.pow 2 53 ≤ n' / d' then low + 1 else low
  let (n, d) := scale 2 (-e) n d
  normalize ⟨roundDiv n d, e⟩

/-- Whether the number is too large for double precision. -/
def isTooLarge (b : Binary) : Bool :=
  0 ≤ b.exponent ∧ Nat.pow 2 1024 ≤ b.mantissa * Nat.pow 2 b.exponent.toNat

/-- The number as a fraction. -/
def fraction (b : Binary) : Nat × Nat := scale 2 b.exponent b.mantissa 1

/-- Four times the distances to the ends of the interval that rounds to the number, in units of its
last place: below and above. -/
def margins (b : Binary) : Nat × Nat :=
  if b.mantissa = Nat.pow 2 52 ∧ minExponent < b.exponent then (1, 2) else (2, 2)

/-- Whether `digits · 10 ^ e` rounds to the number. -/
def reads (b : Binary) (digits : Nat) (e : Int) : Bool :=
  let (below, above) := b.margins
  let (n, d) := scale 10 e digits 1
  let (n, d) := scale 2 (-b.exponent) n d
  let x := 4 * n
  let low := (4 * b.mantissa - below) * d
  let high := (4 * b.mantissa + above) * d
  if b.mantissa % 2 = 0 then low ≤ x ∧ x ≤ high else low < x ∧ x < high

/-- The power of ten of the leading digit of the positive fraction `n / d`. -/
def leading (n d : Nat) : Int :=
  let powers := (List.range 700).map fun (i : Nat) => (330 : Int) - i
  (powers.find? fun e => let (n, d) := scale 10 (-e) n d; d ≤ n).getD 0

/-- The number on the grid of `10 ^ e` that is nearest to `b` among those that read back as `b`; of
two equally near ones the larger. -/
def onGrid? (b : Binary) (e : Int) : Option Nat :=
  let (n, d) := b.fraction
  let (n, d) := scale 10 (-e) n d
  let below := n / d
  match b.reads below e, b.reads (below + 1) e with
  | true, true => some (if 2 * (n % d) < d then below else below + 1)
  | true, false => some below
  | false, true => some (below + 1)
  | false, false => none

/-- The fewest digits that read back as the number, with their power of ten. The coarsest grid is
that of the next power of ten above the number, which may be the nearest there is. -/
def shortest (b : Binary) : Nat × Int :=
  let (n, d) := b.fraction
  let top := leading n d + 1
  let grids := (List.range 18).map fun (i : Nat) => top - i
  (grids.findSome? fun e => (b.onGrid? e).map fun digits => (digits, e)).getD (0, 0)

end Binary

namespace Real

/-- A decimal number beyond all double-precision ones, told from its decimal size alone. -/
def isHuge (digits : Nat) (exponent : Int) : Bool :=
  400 < exponent + (Nat.toDigits 10 digits).length

/-- A decimal number below all double-precision ones, told from its decimal size alone. -/
def isTiny (digits : Nat) (exponent : Int) : Bool :=
  exponent + (Nat.toDigits 10 digits).length < -400

/-- The nearest double-precision number to `digits · 10 ^ exponent`; `none` if it is too large. -/
def binary? (digits : Nat) (exponent : Int) : Option Binary :=
  if digits = 0 ∨ isTiny digits exponent then some ⟨0, Binary.minExponent⟩
  else if isHuge digits exponent then none
  else
    let (n, d) := Binary.scale 10 exponent digits 1
    let b := Binary.nearest n d
    if b.isTooLarge then none else some b

/-- Whether a number is too large for double precision. -/
def isTooLarge : Real → Bool
  | finite _ digits exponent => (binary? digits exponent).isNone
  | _ => false

/-- `digits · 10 ^ e` in positional notation, with at least one digit behind the point. -/
def positional (digits : Nat) (e : Int) : String :=
  let ds := Nat.toDigits 10 digits
  if 0 ≤ e then String.ofList (ds ++ List.replicate e.toNat '0') ++ ".0"
  else
    let places := (-e).toNat
    let ds := List.replicate (places + 1 - ds.length) '0' ++ ds
    let cut := ds.length - places
    String.ofList (ds.take cut) ++ "." ++ String.ofList (ds.drop cut)

/-- The shortest decimal text of a number. -/
def text : Real → String
  | finite negative digits exponent =>
    let sign := if negative then "-" else ""
    match binary? digits exponent with
    | none => sign ++ "inf"
    | some b =>
      if b.mantissa = 0 then sign ++ "0.0"
      else
        let (digits, e) := b.shortest
        sign ++ positional digits e
  | infinite negative => if negative then "-inf" else "inf"
  | notANumber => "NaN"

end Real

end IngressGate.Toml
