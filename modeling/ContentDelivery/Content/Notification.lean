/-
ContentDelivery.Content.Notification — reports of displays and clicks.

A notification is made from the content that is held for an mbox, if
that has tokens to report; a display needs a state too. Notifications
wait in a list, the oldest first, until a request takes them along.
-/
import ContentDelivery.Content.Mbox
import ContentDelivery.Parameters.Wire

namespace ContentDelivery

inductive NotificationKind where
  | display
  | click
deriving DecidableEq, Repr

def NotificationKind.name : NotificationKind → String
  | display => "display"
  | click => "click"

structure Notification where
  id : String
  /-- Milliseconds since the epoch. -/
  timestamp : Int64
  kind : NotificationKind
  mboxName : String
  mboxState : Option String
  tokens : List String
  parameters : Parameters
deriving DecidableEq

namespace Notification

/-- The report that prefetched content was displayed. -/
def display? (id : String) (timestamp : Int64) (parameters : Parameters) (name : String)
    (content : MboxContent) : Option Notification := do
  let state ← content.state?
  guard (content.displayTokens ≠ [])
  return {
    id, timestamp, parameters
    kind := .display
    mboxName := name
    mboxState := some state
    tokens := content.displayTokens
  }

/-- The report that content was clicked. -/
def click? (id : String) (timestamp : Int64) (parameters : Parameters) (name : String)
    (content : MboxContent) : Option Notification := do
  guard (content.clickTokens ≠ [])
  return {
    id, timestamp, parameters
    kind := .click
    mboxName := name
    mboxState := none
    tokens := content.clickTokens
  }

def fields (n : Notification) : List (String × Json) :=
  [ ("id", .string n.id),
    ("timestamp", .int n.timestamp.toInt),
    ("type", .string n.kind.name),
    ("mbox", .ofFields (("name", .string n.mboxName) :: Json.optionalText "state" n.mboxState)),
    ("tokens", .strings n.tokens) ]

/-- The parameters stand beside the notification's own fields. -/
def toJson (n : Notification) : Json := .ofFields (n.fields ++ n.parameters.fields)

end Notification

end ContentDelivery
