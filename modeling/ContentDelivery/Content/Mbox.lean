/-
ContentDelivery.Content.Mbox — mboxes as the service returns them.

An mbox is the fields of an object; nothing in it has to be there. A
display is reported with its state and the tokens of its options, a
click with the tokens of its click metrics.
-/
import ContentDelivery.Json.Basic
import ContentDelivery.Text.Nonempty
import Std.Data.ExtTreeMap

namespace ContentDelivery

abbrev MboxContent := Json.Fields

/-- Mboxes by name. -/
abbrev ContentMap := Std.ExtTreeMap String MboxContent

namespace MboxContent

/-- The opaque state, if it is a string that says something. -/
def state? (m : MboxContent) : Option String := nonempty? ((m.get? "state").bind Json.asString?)

/-- The tokens of the options, in their order. -/
def displayTokens (m : MboxContent) : List String :=
  (Json.itemsOf "options" (.object m)).filterMap (Json.stringField? "eventToken")

def isClickMetric (metric : Json) : Bool := metric.stringField? "type" == some "click"

/-- The tokens of the click metrics that say something, in their order. -/
def clickTokens (m : MboxContent) : List String :=
  (((Json.itemsOf "metrics" (.object m)).filter isClickMetric).filterMap
    (Json.stringField? "eventToken")).filter (!·.isEmpty)

/-- The fields that are kept of content that was rendered at once. -/
def loadedFields : List String := ["name", "metrics"]

/-- What is needed to report clicks. -/
def trimmed (m : MboxContent) : MboxContent := m.restrict loadedFields

end MboxContent

namespace ContentMap

/-- The mboxes as an object, by name. -/
def toJson (m : ContentMap) : Json :=
  .ofFields (m.toList.map fun (name, mbox) => (name, .object mbox))

end ContentMap

end ContentDelivery
