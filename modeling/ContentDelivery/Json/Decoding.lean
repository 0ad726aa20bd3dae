/-
ContentDelivery.Json.Decoding — reading typed values from JSON trees.

A reader is a function `Syntax → Option α`. Records are read field by
field from an object, where unknown names are passed over and a known
name may stand only once, or from an array that lists the fields in
their order and may stop early. Names without meaning and the values
under them need not have a value of their own: nobody reads them.
-/
import ContentDelivery.Json.Reading

namespace ContentDelivery.Json.Syntax

/-! ## Leaves -/

def readText? : Syntax → Option String
  | .string text => text
  | _ => none

/-- A whole number written as such, within the given bounds. -/
def readIntIn? (lo hi : Int) : Syntax → Option Int
  | .number (some (.int n)) => if lo ≤ n ∧ n ≤ hi then some n else none
  | _ => none

def readInt64? (s : Syntax) : Option Int64 :=
  (s.readIntIn? Int64.minValue.toInt Int64.maxValue.toInt).map Int64.ofInt

def readInt32? (s : Syntax) : Option Int32 :=
  (s.readIntIn? Int32.minValue.toInt Int32.maxValue.toInt).map Int32.ofInt

/-- A natural number below the given bound. -/
def readNatBelow? (bound : Nat) (s : Syntax) : Option Nat :=
  (s.readIntIn? 0 (bound - 1)).map Int.toNat

def readUInt64? (s : Syntax) : Option UInt64 := (s.readNatBelow? UInt64.size).map UInt64.ofNat

def readUInt32? (s : Syntax) : Option UInt32 := (s.readNatBelow? UInt32.size).map UInt32.ofNat

def readUInt16? (s : Syntax) : Option UInt16 := (s.readNatBelow? UInt16.size).map UInt16.ofNat

/-- Any number; a whole one is rounded. -/
def readBinary64? : Syntax → Option Binary64
  | .number (some (.float x)) => some x
  | .number (some (.int n)) => some (Binary64.ofInt n)
  | _ => none

/-! ## Compound values -/

/-- `null` is the absent value. -/
def readNullable? (read : Syntax → Option α) : Syntax → Option (Option α)
  | .null => some none
  | s => (read s).map some

def readList? (read : Syntax → Option α) : Syntax → Option (List α)
  | .array items => items.mapM read
  | _ => none

/-- Names and strings in the order of the text. -/
def readTextPairs? : Syntax → Option (List (String × String))
  | .object fields => fields.mapM fun (name, value) => do return (← name, ← value.readText?)
  | _ => none

/-- One of a few names: a string, or an object with that name alone and nothing under it. -/
def readName? : Syntax → Option String
  | .string text => text
  | .object [(name, .null)] => name
  | _ => none

/-! ## Records -/

/-- What stands under each name of a record. -/
abbrev Record := String → Option Syntax

def Record.ofPairs (pairs : List (String × Syntax)) : Record := fun name =>
  (pairs.find? (fun pair => pair.1 == name)).map (·.2)

/-- A record with the given names, in the order in which an array lists them. -/
def readRecord? (names : List String) : Syntax → Option Record
  | .object fields => do
    let pairs ← fields.mapM fun (name, value) => name.map fun n => (n, value)
    guard (names.all fun name => pairs.countP (fun pair => pair.1 == name) ≤ 1)
    return .ofPairs pairs
  | .array items => do
    guard (items.length ≤ names.length)
    return .ofPairs (names.zip items)
  | _ => none

/-- A field that must be there. -/
def Record.required? (r : Record) (name : String) (read : Syntax → Option α) : Option α :=
  (r name).bind read

/-- A field that has a value of its own when it is not there. -/
def Record.optional? (r : Record) (name : String) (read : Syntax → Option α) (default : α) :
    Option α :=
  match r name with
  | none => some default
  | some value => read value

/-- A field that may be absent or `null`. -/
def Record.nullable? (r : Record) (name : String) (read : Syntax → Option α) : Option (Option α) :=
  r.optional? name (readNullable? read) none

end ContentDelivery.Json.Syntax
