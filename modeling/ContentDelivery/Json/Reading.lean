/-
ContentDelivery.Json.Reading — JSON texts as values.

`Json.ofText?` is strict: every part of the text must have a value, and
arrays and objects may stand at most 127 deep in one another. Of a field
given twice the last value counts. `Json.toSyntax` is the way back to a
tree, in which every part has a value and no name stands twice.
-/
import ContentDelivery.Json.Syntax

namespace ContentDelivery

namespace Json

namespace Syntax

/-! ## Depth -/

mutual

/-- How many arrays and objects stand in one another. -/
def depth : Syntax → Nat
  | .array items => itemsDepth items + 1
  | .object fields => fieldsDepth fields + 1
  | _ => 0

def itemsDepth : List Syntax → Nat
  | [] => 0
  | item :: items => max item.depth (itemsDepth items)

def fieldsDepth : List (Option String × Syntax) → Nat
  | [] => 0
  | (_, value) :: fields => max value.depth (fieldsDepth fields)

end

def maxDepth : Nat := 127

/-! ## Values -/

mutual

/-- The value of a tree, if all of its parts have one. -/
def toJson? : Syntax → Option Json
  | .null => some .null
  | .bool b => some (.bool b)
  | .number value => value.map .number
  | .string text => text.map .string
  | .array items => (itemsToJson? items).map .array
  | .object fields => (fieldsToJson? fields).map .ofFields

def itemsToJson? : List Syntax → Option (List Json)
  | [] => some []
  | item :: items => do return (← item.toJson?) :: (← itemsToJson? items)

def fieldsToJson? : List (Option String × Syntax) → Option (List (String × Json))
  | [] => some []
  | (name, value) :: fields => do
    return (← name, ← value.toJson?) :: (← fieldsToJson? fields)

end

end Syntax

/-- The value of a text. -/
def ofText? (text : String) : Option Json := do
  let tree ← Syntax.ofText? text
  guard (tree.depth ≤ Syntax.maxDepth)
  tree.toJson?

/-- The value of a text in UTF-8. -/
def ofUtf8? (bytes : ByteArray) : Option Json := (String.fromUTF8? bytes).bind ofText?

/-! ## The tree of a value -/

mutual

def toSyntax : Json → Syntax
  | .null => .null
  | .bool b => .bool b
  | .number n => .number (some n)
  | .string s => .string (some s)
  | .array items => .array (itemsToSyntax items)
  | .object fields => .object (fieldsToSyntax fields)

def itemsToSyntax : List Json → List Syntax
  | [] => []
  | item :: items => item.toSyntax :: itemsToSyntax items

def fieldsToSyntax : List (String × Json) → List (Option String × Syntax)
  | [] => []
  | (name, value) :: fields => (some name, value.toSyntax) :: fieldsToSyntax fields

end

end Json

end ContentDelivery
