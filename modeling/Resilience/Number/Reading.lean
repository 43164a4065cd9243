import Resilience.Number.Binary

/-!
# Reading numbers

`readNat?` reads an unsigned number: an optional `+`, then one or more digits, within a bound.
`readFloat?` reads a floating-point number: an optional sign, then `inf`, `infinity` or `nan` in
any case, or digits with an optional point and an optional exponent, at least one digit before
the exponent. The value is the nearest one, and infinity when there is none near.
-/

namespace Resilience

/-- The number that a list of decimal digits writes. -/
def digitsValue (digits : List Char) : Nat :=
  digits.foldl (fun n c => 10 * n + (c.toNat - '0'.toNat)) 0

/-- The nearest value to `m * 10 ^ e`. Exponents far outside the range of values are settled
without computing their powers. -/
def nearestFloat (negative : Bool) (m : Nat) (e : Int) : Float :=
  let size := (Nat.toDigits 10 m).length
  let magnitude : Float :=
    if m = 0 ∨ (size : Int) + e < -400 then 0.0
    else if 400 < (size : Int) + e then 1.0 / 0.0
    else Float.ofScientific m (e < 0) e.natAbs
  if negative then -magnitude else magnitude

/-- A decimal number split into its parts: the digits before and after the point, and the
exponent. -/
structure DecimalParts where
  whole : List Char
  fraction : List Char
  exponent : Int

namespace DecimalParts

/-- The value of the parts. -/
def toFloat (p : DecimalParts) (negative : Bool) : Float :=
  nearestFloat negative (digitsValue (p.whole ++ p.fraction)) (p.exponent - p.fraction.length)

end DecimalParts

/-- An exponent part: the mark, an optional sign, and at least one digit. -/
def readExponent? : List Char → Option (Int × List Char)
  | mark :: rest =>
    if mark = 'e' ∨ mark = 'E' then
      let (negative, rest) : Bool × List Char := match rest with
        | '-' :: r => (true, r)
        | '+' :: r => (false, r)
        | r => (false, r)
      let digits := rest.takeWhile Char.isDigit
      if digits.isEmpty then none
      else
        let n : Int := digitsValue digits
        some (if negative then -n else n, rest.dropWhile Char.isDigit)
    else none
  | [] => none

/-- Reads an unsigned number that is at most `bound`. -/
def readNat? (bound : Nat) (text : String) : Option Nat :=
  let digits := match text.toList with
    | '+' :: r => r
    | r => r
  if digits.isEmpty ∨ ¬ digits.all Char.isDigit then none
  else
    let n := digitsValue digits
    if n ≤ bound then some n else none

/-- Reads digits with an optional point and exponent, to the end of the text. -/
private def readMagnitude? (negative : Bool) (text : List Char) : Option Float :=
  let whole := text.takeWhile Char.isDigit
  let afterWhole := text.dropWhile Char.isDigit
  let (fraction, rest) : List Char × List Char := match afterWhole with
    | '.' :: r => (r.takeWhile Char.isDigit, r.dropWhile Char.isDigit)
    | r => ([], r)
  if whole.isEmpty ∧ fraction.isEmpty then none
  else match rest with
    | [] => some ((DecimalParts.mk whole fraction 0).toFloat negative)
    | r => match readExponent? r with
      | some (e, []) => some ((DecimalParts.mk whole fraction e).toFloat negative)
      | _ => none

/-- Reads a floating-point number. -/
def readFloat? (text : String) : Option Float :=
  let (negative, body) : Bool × List Char := match text.toList with
    | '-' :: r => (true, r)
    | '+' :: r => (false, r)
    | r => (false, r)
  let word := String.ofList (body.map Char.toLower)
  let infinity : Float := 1.0 / 0.0
  if word = "inf" ∨ word = "infinity" then some (if negative then -infinity else infinity)
  else if word = "nan" then some (0.0 / 0.0)
  else readMagnitude? negative body

end Resilience
