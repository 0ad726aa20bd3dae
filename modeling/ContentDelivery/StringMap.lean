/-
ContentDelivery.StringMap — finite maps from strings to strings.

Two maps are equal when they hold the same entries. `overlay` puts one
map over another, key by key.
-/
import ContentDelivery.Json.Decoding
import Std.Data.ExtTreeMap

namespace ContentDelivery

abbrev StringMap := Std.ExtTreeMap String String

namespace StringMap

/-- The entries of both maps; where both have a key, `top` decides. -/
def overlay (base top : StringMap) : StringMap := base.insertMany top.toList

@[simp] theorem overlay_empty (base : StringMap) : base.overlay ∅ = base := by
  rw [overlay, Std.ExtTreeMap.toList_eq_nil_iff.mpr rfl, Std.ExtTreeMap.insertMany_nil]

/-- An object whose fields are the entries; both are sorted by key. -/
def toJson (m : StringMap) : Json := .object (m.toList.map fun (key, value) => (key, .string value))

/-- An object of strings; of a repeated name the last value counts. -/
def ofSyntax? (s : Json.Syntax) : Option StringMap :=
  s.readTextPairs?.map fun pairs => Std.ExtTreeMap.ofList pairs

end StringMap

end ContentDelivery
