import Resilience.Json.Basic
import Resilience.Number.Reading

/-!
# Reading documents

`Json.read?` reads one document, blanks around it allowed, and refuses anything else. A number
without point and exponent that fits in 64 bits, signed or unsigned, is whole; every other
number is a floating-point one, and so is `-0`. A number too great for that is refused.

The reader of values carries `fuel`, a bound on nesting and length; the number of characters is
always enough, since every call uses up at least one.
-/

namespace Resilience

namespace Json

private def isBlank (c : Char) : Bool := c = ' ' || c = '\n' || c = '\r' || c = '\t'

private def skipBlanks (cs : List Char) : List Char := cs.dropWhile isBlank

private def hexValue? (c : Char) : Option Nat :=
  if c.isDigit then some (c.toNat - '0'.toNat)
  else if 'a' ≤ c ∧ c ≤ 'f' then some (c.toNat - 'a'.toNat + 10)
  else if 'A' ≤ c ∧ c ≤ 'F' then some (c.toNat - 'A'.toNat + 10)
  else none

private def hexWord? (a b c d : Char) : Option Nat := do
  let a ← hexValue? a
  let b ← hexValue? b
  let c ← hexValue? c
  let d ← hexValue? d
  return ((a * 16 + b) * 16 + c) * 16 + d

private def shortEscape? : Char → Option Char
  | '"' => some '"'
  | '\\' => some '\\'
  | '/' => some '/'
  | 'b' => some (Char.ofNat 8)
  | 'f' => some (Char.ofNat 12)
  | 'n' => some '\n'
  | 'r' => some '\r'
  | 't' => some '\t'
  | _ => none

/-- The rest of a string after its opening quote, collected backwards in `taken`. A character
beyond the basic plane is written as two escapes. -/
private def readChars : Nat → List Char → List Char → Option (String × List Char)
  | 0, _, _ => none
  | fuel + 1, taken, cs =>
    match cs with
    | '"' :: rest => some (String.ofList taken.reverse, rest)
    | '\\' :: 'u' :: a :: b :: c :: d :: rest =>
      match hexWord? a b c d with
      | none => none
      | some high =>
        if 0xD800 ≤ high ∧ high < 0xDC00 then
          match rest with
          | '\\' :: 'u' :: a :: b :: c :: d :: rest =>
            match hexWord? a b c d with
            | none => none
            | some low =>
              if 0xDC00 ≤ low ∧ low < 0xE000 then
                readChars fuel
                  (Char.ofNat (0x10000 + (high - 0xD800) * 0x400 + (low - 0xDC00)) :: taken) rest
              else none
          | _ => none
        else if 0xDC00 ≤ high ∧ high < 0xE000 then none
        else readChars fuel (Char.ofNat high :: taken) rest
    | '\\' :: c :: rest =>
      match shortEscape? c with
      | none => none
      | some c => readChars fuel (c :: taken) rest
    | c :: rest => if c.toNat < 32 then none else readChars fuel (c :: taken) rest
    | [] => none

/-- The greatest number whose negative fits in 64 bits. -/
def maxNegative : Nat := 0x8000000000000000

/-- A floating-point number that is not too great. -/
private def finite? (x : Float) (rest : List Char) : Option (Json × List Char) :=
  if x.isInf then none else some (.float x, rest)

/-- A number: digits without a superfluous zero in front, and at least one digit after a
point. -/
private def readNumber (negative : Bool) (cs : List Char) : Option (Json × List Char) :=
  let whole := cs.takeWhile Char.isDigit
  let rest := cs.dropWhile Char.isDigit
  let superfluous : Bool := match whole with
    | '0' :: _ :: _ => true
    | _ => false
  if whole.isEmpty || superfluous then none
  else
    let (pointed, fraction, rest) : Bool × List Char × List Char := match rest with
      | '.' :: r => (true, r.takeWhile Char.isDigit, r.dropWhile Char.isDigit)
      | r => (false, [], r)
    if pointed && fraction.isEmpty then none
    else
      let marked : Bool := match rest with
        | c :: _ => c = 'e' || c = 'E'
        | [] => false
      if marked then
        (readExponent? rest).bind fun (e, rest) =>
          finite? ((DecimalParts.mk whole fraction e).toFloat negative) rest
      else if pointed then
        finite? ((DecimalParts.mk whole fraction 0).toFloat negative) rest
      else
        let n := digitsValue whole
        if negative && (n = 0 || maxNegative < n) || maxWord < n then
          finite? (nearestFloat negative n 0) rest
        else some (.integer (if negative then -(n : Int) else n), rest)

mutual

/-- One value at the start of the text, blanks in front allowed. -/
private def readValue : Nat → List Char → Option (Json × List Char)
  | 0, _ => none
  | fuel + 1, cs =>
    match skipBlanks cs with
    | 'n' :: 'u' :: 'l' :: 'l' :: rest => some (.null, rest)
    | 't' :: 'r' :: 'u' :: 'e' :: rest => some (.bool true, rest)
    | 'f' :: 'a' :: 'l' :: 's' :: 'e' :: rest => some (.bool false, rest)
    | '"' :: rest => (readChars (rest.length + 1) [] rest).map fun (s, rest) => (.string s, rest)
    | '[' :: rest =>
      match skipBlanks rest with
      | ']' :: rest => some (.array [], rest)
      | rest => readItems fuel [] rest
    | '\x7b' :: rest =>
      match skipBlanks rest with
      | '\x7d' :: rest => some (.object [], rest)
      | rest => readFields fuel [] rest
    | '-' :: rest => readNumber true rest
    | rest => readNumber false rest

/-- The items of an array from the first one on, collected backwards. -/
private def readItems : Nat → List Json → List Char → Option (Json × List Char)
  | 0, _, _ => none
  | fuel + 1, taken, cs =>
    match readValue fuel cs with
    | none => none
    | some (j, rest) =>
      match skipBlanks rest with
      | ',' :: rest => readItems fuel (j :: taken) rest
      | ']' :: rest => some (.array (j :: taken).reverse, rest)
      | _ => none

/-- The fields of an object from the first one on. -/
private def readFields : Nat → List (String × Json) → List Char → Option (Json × List Char)
  | 0, _, _ => none
  | fuel + 1, taken, cs =>
    match skipBlanks cs with
    | '"' :: rest =>
      match readChars (rest.length + 1) [] rest with
      | none => none
      | some (name, rest) =>
        match skipBlanks rest with
        | ':' :: rest =>
          match readValue fuel rest with
          | none => none
          | some (j, rest) =>
            match skipBlanks rest with
            | ',' :: rest => readFields fuel (insertField name j taken) rest
            | '\x7d' :: rest => some (.object (insertField name j taken), rest)
            | _ => none
        | _ => none
    | _ => none

end

/-- Reads a document. -/
def read? (text : String) : Option Json :=
  let cs := text.toList
  match readValue (2 * cs.length + 2) cs with
  | some (j, rest) => if (skipBlanks rest).isEmpty then some j else none
  | none => none

end Json

end Resilience
