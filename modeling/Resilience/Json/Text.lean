import Resilience.Json.Basic
import Resilience.Number.Shortest

/-!
# The text of a document

`Json.text` writes a document on one line without blanks. Strings keep every character as it is
except quotes, backslashes and control characters. Floating-point numbers have the fewest digits
that read back (`documentNumber`).
-/

namespace Resilience

/-- In documents exponents from -5 to 15 are written with a plain point and ties go to even. -/
def documentNumber : NumberStyle where
  plainFrom := -5
  plainBelow := 16
  tie := .toEven

namespace Json

/-- One hexadecimal digit, in lower case. -/
def hexDigit (n : Nat) : Char := Nat.digitChar (n % 16)

/-- A character inside a quoted string. -/
def escapeChar (c : Char) : List Char :=
  if c = '"' then ['\\', '"']
  else if c = '\\' then ['\\', '\\']
  else if c = '\n' then ['\\', 'n']
  else if c = '\r' then ['\\', 'r']
  else if c = '\t' then ['\\', 't']
  else if c.toNat = 8 then ['\\', 'b']
  else if c.toNat = 12 then ['\\', 'f']
  else if c.toNat < 32 then ['\\', 'u', '0', '0', hexDigit (c.toNat / 16), hexDigit c.toNat]
  else [c]

/-- A string in quotes. -/
def quote (s : String) : String :=
  "\"" ++ String.ofList (s.toList.flatMap escapeChar) ++ "\""

mutual

/-- The text of a document. -/
def text : Json → String
  | .null => "null"
  | .bool true => "true"
  | .bool false => "false"
  | .integer n => toString n
  | .float x => documentNumber.text x
  | .string s => quote s
  | .array items => "[" ++ textItems items ++ "]"
  | .object fields => "\x7b" ++ textFields fields ++ "\x7d"

/-- The items of an array with commas between them. -/
def textItems : List Json → String
  | [] => ""
  | [j] => text j
  | j :: rest => text j ++ "," ++ textItems rest

/-- The fields of an object with commas between them. -/
def textFields : List (String × Json) → String
  | [] => ""
  | [(name, j)] => quote name ++ ":" ++ text j
  | (name, j) :: rest => quote name ++ ":" ++ text j ++ "," ++ textFields rest

end

end Json

end Resilience
