import Resilience.Time

/-!
# Binary floating-point values, exactly

The magnitude of a finite binary64 value is `m * 2 ^ q` for a natural `m` and an integer `q`
(`Binary.ofFloat`). Everything that has to be exact about such a value, which decimals read back
to it, how many nanoseconds it is when it counts seconds, is decided on that pair in whole
numbers.
-/

namespace Resilience

/-- The power `base ^ e`, or `1` when `e` is negative. -/
def power (base : Nat) (e : Int) : Nat := Nat.pow base e.toNat

/-- A quotient rounded to the nearest whole number, a half to the even neighbour. -/
def roundQuotient (num den : Nat) : Nat :=
  let low := num / den
  let rest := num % den
  if 2 * rest < den then low
  else if 2 * rest = den then low + low % 2
  else low + 1

/-- A non-negative value `m * 2 ^ q`. -/
structure Binary where
  m : Nat
  q : Int
  /-- The gap to the value below is half of the gap to the value above. -/
  narrowBelow : Bool
deriving DecidableEq, Repr

namespace Binary

/-- The leading bit of a normal value, which is not written down: `2 ^ 52`. -/
def hidden : Nat := 0x10000000000000

/-- The magnitude of a finite value. -/
def ofFloat (x : Float) : Binary :=
  let bits : Nat := x.toBits.toNat
  let exponent : Nat := bits / hidden % 2048
  let fraction : Nat := bits % hidden
  if exponent = 0 then ⟨fraction, -1074, false⟩
  else ⟨hidden + fraction, (exponent : Int) - 1075, fraction = 0 && 1 < exponent⟩

/-- A value over `10 ^ e` as a quotient of whole numbers. -/
def quotient (x : Binary) (e : Int) : Nat × Nat :=
  (x.m * power 2 x.q * power 10 (-e), power 2 (-x.q) * power 10 e)

/-- Compares the decimal `d * 10 ^ e` with `n * 2 ^ j`. -/
def compareDecimal (d : Nat) (e : Int) (n : Nat) (j : Int) : Ordering :=
  compare (d * power 10 e * power 2 (-j)) (n * power 2 j * power 10 (-e))

/-- Whether the decimal `d * 10 ^ e` rounds to this value: it lies between the midpoints to the
two neighbours, and a midpoint itself belongs to the even one. -/
def readsBack (x : Binary) (d : Nat) (e : Int) : Bool :=
  let below := compareDecimal d e (if x.narrowBelow then 4 * x.m - 1 else 4 * x.m - 2) (x.q - 2)
  let above := compareDecimal d e (4 * x.m + 2) (x.q - 2)
  let closed := x.m % 2 == 0
  (below == .gt || closed && below == .eq) && (above == .lt || closed && above == .eq)

end Binary

/-- Whether a value has its sign bit set. -/
def signBit (x : Float) : Bool := 0x8000000000000000 ≤ x.toBits.toNat

/-! ### Seconds as a floating-point number -/

/-- A duration in seconds, each of the two parts rounded on its own. -/
def Duration.toSeconds (d : Duration) : Float :=
  (UInt64.ofNat d.secs).toFloat + (UInt64.ofNat d.subsecNanos).toFloat / 1000000000.0

/-- The duration nearest to a finite, non-negative number of seconds; none when its whole seconds
do not fit in 64 bits. -/
def Duration.ofSeconds? (x : Float) : Option Duration :=
  let (num, den) := (Binary.ofFloat x).quotient (-9)
  let nanos := roundQuotient num den
  if nanos / Duration.perSecond ≤ maxWord then some ⟨nanos⟩ else none

end Resilience
