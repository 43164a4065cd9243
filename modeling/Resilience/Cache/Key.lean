/-!
# Cache keys

A key is a text of at least one and at most `longestKey` bytes. Everything that takes a key
checks it first, and a bad key changes nothing.
-/

namespace Resilience

namespace Cache

/-- What a cache can complain about. -/
inductive Fault where
  | invalidKey (reason : String)
  | internal (reason : String)
deriving DecidableEq, Repr

/-- The word for a kind of complaint. -/
def Fault.word : Fault → String
  | .invalidKey _ => "invalid_key"
  | .internal _ => "internal"

def Fault.message : Fault → String
  | .invalidKey reason => "Invalid key: " ++ reason
  | .internal reason => "Internal error: " ++ reason

/-- The greatest length of a key in bytes. -/
def longestKey : Nat := 250

/-- The complaint about a key, if there is one. -/
def keyFault? (key : String) : Option Fault :=
  if key.utf8ByteSize = 0 then some (.invalidKey "key is empty")
  else if longestKey < key.utf8ByteSize then
    some (.invalidKey ("key exceeds maximum length of " ++ toString longestKey ++ " bytes"))
  else none

end Cache

end Resilience
