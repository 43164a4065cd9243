import Resilience.Number.Binary

/-!
# The shortest decimal of a value, and its layout

`Decimal.shortest` finds the fewest digits that read back to a value: for one digit, two digits
and so on it tries the two neighbours of the value on that decimal grid, and the first grid with
a hit wins. Of two hits the nearer is taken; of two equally near, a `Tie` decides.

How the digits are then written is one record, a `NumberStyle`: which exponents are written with
a plain point, and which way ties go.
-/

namespace Resilience

/-- Which of two equally near decimals is taken. -/
inductive Tie where
  | toEven
  | up
deriving DecidableEq, Repr

/-- The decimal `digits * 10 ^ exponent`. -/
structure Decimal where
  digits : Nat
  exponent : Int
deriving DecidableEq, Repr

namespace Decimal

/-- The least `k` with `x < 10 ^ k`, found from the binary logarithm in at most three tries. -/
def scale (x : Binary) : Int :=
  let guess := (((x.m.log2 : Int) + x.q) * 30103).fdiv 100000
  let isAbove (k : Int) : Bool :=
    let (num, den) := x.quotient k
    num < den
  if isAbove guess then guess else if isAbove (guess + 1) then guess + 1 else guess + 2

/-- The better of the two neighbours of `x` on the grid of multiples of `10 ^ e`, if either reads
back to `x`. -/
def onGrid (tie : Tie) (x : Binary) (e : Int) : Option Decimal :=
  let (num, den) := x.quotient e
  let low := num / den
  let nearer : Ordering := compare (2 * num) ((2 * low + 1) * den)
  let pickLow : Bool := match nearer, tie with
    | .lt, _ => true
    | .gt, _ => false
    | .eq, .toEven => low % 2 == 0
    | .eq, .up => false
  match x.readsBack low e, x.readsBack (low + 1) e with
  | true, true => some ⟨if pickLow then low else low + 1, e⟩
  | true, false => some ⟨low, e⟩
  | false, true => some ⟨low + 1, e⟩
  | false, false => none

/-- Moves the zeros at the end of the digits into the exponent, at most `fuel` of them. -/
def strip : Nat → Decimal → Decimal
  | 0, d => d
  | fuel + 1, d =>
    if d.digits % 10 = 0 ∧ d.digits ≠ 0 then strip fuel ⟨d.digits / 10, d.exponent + 1⟩ else d

/-- The exact decimal of `x`: always right, seldom short. -/
def exact (x : Binary) : Decimal :=
  if 0 ≤ x.q then ⟨x.m * power 2 x.q, 0⟩ else ⟨x.m * power 5 (-x.q), x.q⟩

/-- The fewest digits that read back to `x`. -/
def shortest (tie : Tie) (x : Binary) : Decimal :=
  if x.m = 0 then ⟨0, 0⟩
  else
    let k := scale x
    match (List.range 17).findSome? fun n => onGrid tie x (k - (n + 1 : Nat)) with
    | some d => strip 17 d
    | none => exact x

end Decimal

/-! ### Layout -/

/-- How a number is written. Integral values always keep one zero after the point. -/
structure NumberStyle where
  /-- The least exponent of the leading digit that is written with a plain point. -/
  plainFrom : Int
  /-- The first exponent above those that is written with an exponent part. -/
  plainBelow : Int
  tie : Tie

namespace NumberStyle

private def zeros (n : Nat) : String := String.ofList (List.replicate n '0')

/-- Lays out a decimal without a sign. -/
def layout (style : NumberStyle) (d : Decimal) : String :=
  let digits := Nat.toDigits 10 d.digits
  let lead : Int := d.exponent + (digits.length : Int) - 1
  if d.digits = 0 then "0.0"
  else if style.plainFrom ≤ lead ∧ lead < style.plainBelow then
    if 0 ≤ d.exponent then String.ofList digits ++ zeros d.exponent.toNat ++ ".0"
    else if 0 ≤ lead then
      String.ofList (digits.take (lead.toNat + 1)) ++ "." ++
        String.ofList (digits.drop (lead.toNat + 1))
    else "0." ++ zeros ((-lead).toNat - 1) ++ String.ofList digits
  else
    let tail := digits.drop 1
    String.ofList (digits.take 1) ++
      (if tail.isEmpty then "" else "." ++ String.ofList tail) ++ "e" ++ toString lead

/-- Writes a value with its sign; a zero keeps its sign too. -/
def text (style : NumberStyle) (x : Float) : String :=
  if x.isNaN then "NaN"
  else
    let sign := if signBit x then "-" else ""
    if x.isInf then sign ++ "inf"
    else sign ++ style.layout (Decimal.shortest style.tie (Binary.ofFloat x))

end NumberStyle

end Resilience
