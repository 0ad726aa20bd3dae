/-
ContentDelivery.Json.Basic — JSON values and the fields of objects.

An object's fields are kept sorted by name and without repetition
(`Fields.insert`), so two objects are equal exactly when they have the
same fields, whatever order these were written in. A number is a whole
number of 64 bits, signed or not, or else a floating-point number.
-/
import ContentDelivery.Number.Binary64

namespace ContentDelivery

inductive JsonNumber where
  | int (n : Int)
  | float (x : Binary64)
deriving DecidableEq, Repr, Inhabited

inductive Json where
  | null
  | bool (b : Bool)
  | number (n : JsonNumber)
  | string (s : String)
  | array (items : List Json)
  | object (fields : List (String × Json))
deriving Repr, Inhabited

namespace Json

/-- The named values of an object. -/
abbrev Fields := List (String × Json)

namespace Fields

def get? (fields : Fields) (name : String) : Option Json :=
  (fields.find? (fun field => field.1 == name)).map (·.2)

/-- Puts a value under a name, in the place of the value that was there. -/
def insert (name : String) (value : Json) : Fields → Fields
  | [] => [(name, value)]
  | (n, v) :: rest =>
    if name < n then (name, value) :: (n, v) :: rest
    else if name = n then (name, value) :: rest
    else (n, v) :: insert name value rest

/-- The fields of a sequence of named values; of a repeated name the last value counts. -/
def ofList (pairs : List (String × Json)) : Fields :=
  pairs.foldl (fun fields pair => fields.insert pair.1 pair.2) []

/-- The fields whose names are accepted. -/
def restrict (accepted : List String) (fields : Fields) : Fields :=
  fields.filter (fun field => accepted.contains field.1)

end Fields

/-! ## Construction -/

/-- The object of the given named values. -/
def ofFields (pairs : List (String × Json)) : Json := .object (Fields.ofList pairs)

def int (n : Int) : Json := .number (.int n)

/-- A finite number as it is; there is no text for the others, which become null. -/
def float (x : Binary64) : Json := if x.isFinite then .number (.float x) else .null

def strings (items : List String) : Json := .array (items.map .string)

def textOrNull (text : Option String) : Json := (text.map Json.string).getD .null

/-- A field that is left out when it has no value. -/
def optionalField (name : String) (value : Option Json) : List (String × Json) :=
  (value.map fun v => (name, v)).toList

/-- A string field that is left out when it has no value. -/
def optionalText (name : String) (text : Option String) : List (String × Json) :=
  optionalField name (text.map .string)

/-! ## Views -/

def asString? : Json → Option String
  | .string s => some s
  | _ => none

def asArray? : Json → Option (List Json)
  | .array items => some items
  | _ => none

def asObject? : Json → Option Fields
  | .object fields => some fields
  | _ => none

/-- The value of a field; other values than objects have none. -/
def field? (name : String) (j : Json) : Option Json := j.asObject?.bind (·.get? name)

/-- A string under a name, if there is one. -/
def stringField? (name : String) (j : Json) : Option String := (j.field? name).bind asString?

/-- The items of an array under a name, none if there is no array. -/
def itemsOf (name : String) (j : Json) : List Json := ((j.field? name).bind asArray?).getD []

end Json

end ContentDelivery
