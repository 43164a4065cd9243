/-!
# Request paths

A request names a page by its path. The query, from the first question mark on, does not count,
and neither does the name of a site in front. A segment may have characters written as `%` and
two hexadecimal digits; what does not have that form stays as it is. The bytes that come out have
to be a text.
-/

namespace Resilience

namespace Diagnostics

/-- The part of a target from its path on, less a scheme and the name of a site. -/
def afterSite : List Char → Option (List Char)
  | [] => none
  | ':' :: '/' :: '/' :: rest => some (rest.dropWhile (· ≠ '/'))
  | _ :: rest => afterSite rest

/-- The path of a target. -/
def pathOf (target : String) : List Char :=
  match target.toList.takeWhile fun c => c ≠ '?' ∧ c ≠ '#' with
  | '/' :: path => '/' :: path
  | other => (afterSite other).getD []

/-- The value of a hexadecimal digit. -/
def hexDigit? (b : UInt8) : Option UInt8 :=
  if 48 ≤ b ∧ b ≤ 57 then some (b - 48)
  else if 97 ≤ b ∧ b ≤ 102 then some (b - 87)
  else if 65 ≤ b ∧ b ≤ 70 then some (b - 55)
  else none

/-- Replaces escapes by the bytes that they stand for. -/
def unescape : List UInt8 → List UInt8
  | [] => []
  | b :: high :: low :: rest =>
    if b = 37 then
      match hexDigit? high, hexDigit? low with
      | some h, some l => (h * 16 + l) :: unescape rest
      | _, _ => b :: unescape (high :: low :: rest)
    else b :: unescape (high :: low :: rest)
  | b :: rest => b :: unescape rest

/-- The text that a segment stands for, if it is one. -/
def segmentText? (segment : List Char) : Option String :=
  String.fromUTF8? ⟨(unescape (String.ofList segment).toUTF8.toList).toArray⟩

/-- What a path leads to. -/
inductive Route where
  | health
  | statistics
  | breakers
  /-- One breaker, by a name as written in the path. -/
  | breaker (segment : List Char)
  | unknown
deriving DecidableEq, Repr

/-- The path in front of the name of a breaker. -/
def breakerRoot : List Char := "/breakers/".toList

def Route.ofPath (path : List Char) : Route :=
  if path = "/health".toList then .health
  else if path = "/stats".toList then .statistics
  else if path = "/breakers".toList then .breakers
  else if breakerRoot.isPrefixOf path then
    let segment := path.drop breakerRoot.length
    if segment.isEmpty ∨ '/' ∈ segment then .unknown else .breaker segment
  else .unknown

end Diagnostics

end Resilience
