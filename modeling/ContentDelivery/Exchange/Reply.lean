/-
ContentDelivery.Exchange.Reply — what the service answers.

The body of a reply must be a JSON object. Nothing in it has to be
there, and what has the wrong type counts as missing.
-/
import ContentDelivery.Content.Mbox
import ContentDelivery.Exchange.Transport
import ContentDelivery.Failure
import ContentDelivery.Json.Reading

namespace ContentDelivery

/-- A reply whose body was read. -/
structure DeliveryReply where
  status : UInt16
  body : Json.Fields

namespace DeliveryReply

def ofHttp? (reply : HttpReply) : Option DeliveryReply :=
  ((Json.ofUtf8? reply.body).bind Json.asObject?).map fun body => { status := reply.status, body }

/-- The visitor's id, as the service knows it. -/
def tntId? (r : DeliveryReply) : Option String :=
  (r.body.get? "id").bind (Json.stringField? "tntId")

/-- The host that further requests of this visitor should go to. -/
def edgeHost? (r : DeliveryReply) : Option String := (r.body.get? "edgeHost").bind Json.asString?

/-- The error that the service reports. -/
def message? (r : DeliveryReply) : Option String := (r.body.get? "message").bind Json.asString?

/-- The name of an mbox with its fields. -/
def named? (mbox : Json) : Option (String × MboxContent) := do
  let fields ← mbox.asObject?
  let name ← mbox.stringField? "name"
  return (name, fields)

/-- The mboxes of a section by name; those without a name are passed over, and of those with the
same name the last counts. -/
def mboxes (sectionName : String) (r : DeliveryReply) : ContentMap :=
  Std.ExtTreeMap.ofList
    ((((r.body.get? sectionName).map (Json.itemsOf "mboxes")).getD []).filterMap named?)

def statusOk : UInt16 := 200

/-- The failure that the reply reports: by its status, by a message, or both. -/
def failure? (r : DeliveryReply) : Option Failure :=
  if r.status ≠ statusOk ∨ r.message?.isSome then
    some (.application r.status (r.message?.getD "unknown error"))
  else none

end DeliveryReply

end ContentDelivery
