import Resilience.Settings.Basic
import Resilience.Text.Quoted

/-!
# Reading configurations from documents

A configuration is read from an object, whose other fields are ignored, or from an array with the
fields in their order. The fields of an object are looked at in the order of their names, and the
first bad one is reported; only then are missing fields, in the order of declaration. An array is
read from the front, and what is too long is reported last.

Durations are strict: an object for a duration has no other fields.
-/

namespace Resilience

namespace Settings

/-- Why a document is not a configuration. -/
inductive ReadError where
  | missingField (name : String)
  /-- A field that a duration does not have. -/
  | unknownField (name : String)
  | durationOverflow
  /-- The document is of the wrong kind. -/
  | wrongKind (found expected : String)
  /-- A whole number that does not fit. -/
  | outOfRange (n : Int) (expected : String)
  /-- An array with too few items. -/
  | tooShort (size : Nat) (expected : String)
  /-- An array with too many items. -/
  | tooLong (size : Nat)
  | unknownState (name : String)
  /-- An object for a state that does not have exactly one field. -/
  | notSingleField
deriving DecidableEq, Repr

def ReadError.message : ReadError → String
  | missingField name => "missing field `" ++ name ++ "`"
  | unknownField name => "unknown field `" ++ name ++ "`, expected `secs` or `nanos`"
  | durationOverflow => "overflow deserializing Duration"
  | wrongKind found expected => "invalid type: " ++ found ++ ", expected " ++ expected
  | outOfRange n expected => "invalid value: integer `" ++ toString n ++ "`, expected " ++ expected
  | tooShort size expected => "invalid length " ++ toString size ++ ", expected " ++ expected
  | tooLong size => "invalid length " ++ toString size ++ ", expected fewer elements in array"
  | unknownState name =>
    "unknown variant `" ++ name ++ "`, expected one of `CLOSED`, `OPEN`, `HALF_OPEN`"
  | notSingleField => "invalid value: map, expected map with a single key"

/-- In messages numbers are always written with a plain point. -/
def messageNumber : NumberStyle where
  plainFrom := -1100
  plainBelow := 1100
  tie := .up

/-- What a document is, for a message. -/
def describe : Json → String
  | .null => "null"
  | .bool b => "boolean `" ++ (if b then "true" else "false") ++ "`"
  | .integer n => "integer `" ++ toString n ++ "`"
  | .float x => "floating point `" ++ messageNumber.text x ++ "`"
  | .string s => "string " ++ Text.quote s
  | .array _ => "sequence"
  | .object _ => "map"

/-- A whole number from zero to `bound`, called `expected` in messages. -/
def readNatural (expected : String) (bound : Nat) : Json → Except ReadError Nat
  | .integer (.ofNat n) => if n ≤ bound then .ok n else .error (.outOfRange n expected)
  | .integer n => .error (.outOfRange n expected)
  | j => .error (.wrongKind (describe j) expected)

def readHalfWord : Json → Except ReadError Nat := readNatural "u32" maxHalfWord

def readWord : Json → Except ReadError Nat := readNatural "u64" maxWord

/-- A count of things in memory. -/
def readSize : Json → Except ReadError Nat := readNatural "usize" maxWord

def readFactor (j : Json) : Except ReadError Float :=
  match j.asFloat? with
  | some x => .ok x
  | none => .error (.wrongKind (describe j) "f64")

/-! ### Durations -/

/-- Joins the parts of a duration; nanoseconds beyond a second are carried. -/
def joinDuration (secs nanos : Nat) : Except ReadError Duration :=
  let d := Duration.ofParts secs nanos
  if d.secs ≤ maxWord then .ok d else .error .durationOverflow

/-- Checks the fields of an object for a duration. -/
def checkDurationFields : List (String × Json) → Except ReadError Unit
  | [] => .ok ()
  | (name, j) :: rest => do
    if name = "secs" then discard (readWord j)
    else if name = "nanos" then discard (readHalfWord j)
    else .error (.unknownField name)
    checkDurationFields rest

def readDuration (j : Json) : Except ReadError Duration :=
  match j with
  | .object fields => do
    checkDurationFields fields
    match fields.lookup "secs", fields.lookup "nanos" with
    | none, _ => .error (.missingField "secs")
    | _, none => .error (.missingField "nanos")
    | some secs, some nanos => joinDuration (← readWord secs) (← readHalfWord nanos)
  | .array items =>
    match items with
    | [] => .error (.tooShort 0 "struct Duration")
    | [secs] => do
      discard (readWord secs)
      .error (.tooShort 1 "struct Duration")
    | secs :: nanos :: rest => do
      let d ← joinDuration (← readWord secs) (← readHalfWord nanos)
      if rest.isEmpty then return d else .error (.tooLong items.length)
  | j => .error (.wrongKind (describe j) "struct Duration")

/-! ### Records -/

/-- A field of a record: its name and the check that its document has to pass. -/
structure Field where
  name : String
  check : Json → Except ReadError Unit

/-- A field whose documents are read by `read`. -/
def Field.of {α : Type} (name : String) (read : Json → Except ReadError α) : Field :=
  ⟨name, fun j => discard (read j)⟩

/-- Checks the fields of an object in the order in which they stand. -/
def checkFields (declared : List Field) : List (String × Json) → Except ReadError Unit
  | [] => .ok ()
  | (name, j) :: rest => do
    match declared.find? (·.name = name) with
    | some field => field.check j
    | none => pure ()
    checkFields declared rest

/-- The documents of the declared fields of an object. -/
def collectFields (fields : List (String × Json)) : List Field → Except ReadError (List Json)
  | [] => .ok []
  | field :: rest =>
    match fields.lookup field.name with
    | none => .error (.missingField field.name)
    | some j => return j :: (← collectFields fields rest)

/-- Checks the items of an array against the declared fields; `done` items came before. -/
def checkItems (expected : String) (done : Nat) : List Field → List Json → Except ReadError Unit
  | [], _ => .ok ()
  | _ :: _, [] => .error (.tooShort done expected)
  | field :: declared, j :: items => do
    field.check j
    checkItems expected (done + 1) declared items

/-- The documents of the declared fields of a record called `name`, all of them checked. -/
def readRecord (name : String) (declared : List Field) (j : Json) :
    Except ReadError (List Json) :=
  match j with
  | .object fields => do
    checkFields declared fields
    collectFields fields declared
  | .array items => do
    checkItems ("struct " ++ name ++ " with " ++ toString declared.length ++ " elements") 0
      declared items
    if declared.length < items.length then .error (.tooLong items.length)
    else return items
  | j => .error (.wrongKind (describe j) ("struct " ++ name))

/-- A record of two fields. -/
def readPair {α β γ : Type} (name first second : String) (readFirst : Json → Except ReadError α)
    (readSecond : Json → Except ReadError β) (make : α → β → γ) (j : Json) :
    Except ReadError γ := do
  match ← readRecord name [.of first readFirst, .of second readSecond] j with
  | [a, b] => return make (← readFirst a) (← readSecond b)
  | _ => .error (.missingField first)

/-- A record of three fields. -/
def readTriple {α β γ δ : Type} (name first second third : String)
    (readFirst : Json → Except ReadError α) (readSecond : Json → Except ReadError β)
    (readThird : Json → Except ReadError γ) (make : α → β → γ → δ) (j : Json) :
    Except ReadError δ := do
  match ← readRecord name
      [.of first readFirst, .of second readSecond, .of third readThird] j with
  | [a, b, c] => return make (← readFirst a) (← readSecond b) (← readThird c)
  | _ => .error (.missingField first)

/-! ### Configurations -/

def readBreaker : Json → Except ReadError Breaker.Config :=
  readPair "CircuitBreakerConfig" "failure_threshold" "reset_timeout" readHalfWord readDuration
    Breaker.Config.mk

def readRetry : Json → Except ReadError Retry.Config :=
  readTriple "RetryConfig" "max_attempts" "delay" "backoff_multiplier"
    readHalfWord readDuration readFactor Retry.Config.mk

def readCache : Json → Except ReadError Cache.Config :=
  readTriple "CacheConfig" "max_keys" "default_ttl" "sweep_interval"
    readSize readWord readDuration Cache.Config.mk

def readBucket : Json → Except ReadError Bucket.Config :=
  readPair "RateLimitConfig" "rate" "interval" readHalfWord readDuration Bucket.Config.mk

def readLimiter : Json → Except ReadError Limiter.Config :=
  readPair "BackpressureConfig" "max_concurrency" "max_queue" readSize readSize Limiter.Config.mk

/-- The state of a breaker by its word. -/
def phaseOfWord (word : String) : Except ReadError Breaker.Phase :=
  match [Breaker.Phase.closed, .opened, .halfOpen].find? (·.word = word) with
  | some phase => .ok phase
  | none => .error (.unknownState word)

/-- The state of a breaker: its word, or an object with the word for a name and nothing in it. -/
def readPhase : Json → Except ReadError Breaker.Phase
  | .string word => phaseOfWord word
  | .object [(word, content)] => do
    let phase ← phaseOfWord word
    match content with
    | .null => return phase
    | j => .error (.wrongKind (describe j) "unit")
  | .object _ => .error .notSingleField
  | j => .error (.wrongKind (describe j) "string or map")

end Settings

end Resilience
