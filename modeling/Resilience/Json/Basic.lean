/-!
# Documents

A `Json` value is what operations take and return and what the diagnostics pages are made of.
Whole numbers and floating-point numbers are different values: `1` and `1.0` are told apart. The
fields of an object are kept in the order of their names, each name once, so two objects with
the same fields are the same object; `Json.object` is to be built with `Json.ofFields` unless
the fields are already in order.
-/

namespace Resilience

/-- A document. -/
inductive Json where
  | null
  | bool (b : Bool)
  | integer (n : Int)
  | float (x : Float)
  | string (s : String)
  | array (items : List Json)
  | object (fields : List (String × Json))
deriving Inhabited, Repr

namespace Json

/-- Puts a field in its place; a field of the same name gives way. -/
def insertField (name : String) (value : Json) : List (String × Json) → List (String × Json)
  | [] => [(name, value)]
  | (other, old) :: rest =>
    if name < other then (name, value) :: (other, old) :: rest
    else if name = other then (name, value) :: rest
    else (other, old) :: insertField name value rest

/-- An object from fields in any order; of two fields of one name the later counts. -/
def ofFields (fields : List (String × Json)) : Json :=
  .object (fields.foldl (fun kept f => insertField f.1 f.2 kept) [])

/-- A field of an object. -/
def field? (name : String) : Json → Option Json
  | .object fields => fields.lookup name
  | _ => none

/-- A field of an object that is there and not null. -/
def given? (name : String) (j : Json) : Option Json :=
  match j.field? name with
  | some .null => none
  | found => found

/-! ### Views -/

def asNat? : Json → Option Nat
  | .integer (.ofNat n) => some n
  | _ => none

def asString? : Json → Option String
  | .string s => some s
  | _ => none

def asBool? : Json → Option Bool
  | .bool b => some b
  | _ => none

def asArray? : Json → Option (List Json)
  | .array items => some items
  | _ => none

/-- A number as a floating-point value; a whole number is rounded to the nearest one. -/
def asFloat? : Json → Option Float
  | .float x => some x
  | .integer (.ofNat n) => some (Float.ofNat n)
  | .integer (.negSucc n) => some (-Float.ofNat (n + 1))
  | _ => none

/-- The number `n` as a document. -/
def ofNat (n : Nat) : Json := .integer n

end Json

end Resilience
