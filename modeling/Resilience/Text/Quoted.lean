import Resilience.Text.Ranges

/-!
# Quoted text

`Text.quote` writes a text in quotes so that every character of it can be told apart when read:
the quote and the backslash have a backslash in front, the common controls have a letter, and
characters that would not be seen, or would join the one before, are written by number.
-/

namespace Resilience

namespace Text

/-- A character by number. -/
def numbered (c : Char) : List Char :=
  ['\\', 'u', '\x7b'] ++ Nat.toDigits 16 c.toNat ++ ['\x7d']

/-- A character inside quotes. -/
def quoteChar (c : Char) : List Char :=
  if c = '"' then ['\\', '"']
  else if c = '\\' then ['\\', '\\']
  else if c = '\n' then ['\\', 'n']
  else if c = '\r' then ['\\', 'r']
  else if c = '\t' then ['\\', 't']
  else if c.toNat = 0 then ['\\', '0']
  else if c.toNat < 127 ∧ 32 ≤ c.toNat then [c]
  else if inRanges extendingRanges c.toNat ∨ inRanges invisibleRanges c.toNat then numbered c
  else [c]

/-- A text in quotes. -/
def quote (s : String) : String :=
  "\"" ++ String.ofList (s.toList.flatMap quoteChar) ++ "\""

end Text

end Resilience
