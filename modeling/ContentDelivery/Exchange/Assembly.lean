/-
ContentDelivery.Exchange.Assembly — payloads made from what is known.

A payload needs a configuration that allows requests and something to
send: mboxes or notifications. An mbox is asked for with the lifecycle
parameters, under its own ones, under those of the call.
-/
import ContentDelivery.Exchange.Payload
import ContentDelivery.Failure
import ContentDelivery.Host.Configuration
import ContentDelivery.Host.Facts
import ContentDelivery.Visitor.Session

namespace ContentDelivery

/-- An mbox to ask for, with parameters of its own. -/
structure MboxRequest where
  name : String
  parameters : Option Parameters := none
deriving DecidableEq

/-- The mboxes that a request asks for, and what for. -/
inductive MboxSelection where
  | prefetch (mboxes : List MboxRequest)
  | execute (mboxes : List MboxRequest)
  /-- Nothing but notifications is sent. -/
  | none
deriving DecidableEq

def MboxSelection.isEmpty : MboxSelection → Bool
  | prefetch mboxes | execute mboxes => mboxes.isEmpty
  | none => true

/-- The configuration in effect, if it allows requests. -/
def Configuration.forRequests : Option Configuration → Except Failure Configuration
  | none => .error .configurationMissing
  | some c =>
    if c.clientCode.isEmpty then .error .clientCodeEmpty
    else if c.privacy ≠ .optedIn then .error .optedOut
    else .ok c

theorem Configuration.forRequests_eq_ok {current : Option Configuration} {c : Configuration} :
    forRequests current = .ok c ↔
      current = some c ∧ c.clientCode ≠ "" ∧ c.privacy = .optedIn := by
  cases current with
  | none => simp [forRequests]
  | some d => grind [forRequests, String.isEmpty_iff]

namespace HostFacts

/-- The parameters of a notification: those of the call over the derived ones. -/
def notificationParameters (facts : HostFacts) (ofCall : Option Parameters) : Parameters :=
  Parameters.merge (some facts.contextData) none ofCall

def visitorIds (facts : HostFacts) (visitor : IdentityState) : VisitorIds where
  tntId := visitor.tntId
  thirdPartyId := visitor.thirdPartyId
  marketingCloudId := facts.identity.bind Identity.marketingCloudId
  customerIds := (facts.identity.map Identity.visitorIds).getD []

/-- The audience data, present whenever the identity service knows anything. -/
def audience (facts : HostFacts) : Option AudienceData :=
  facts.identity.map fun i => { blob := i.blob, locationHint := i.locationHint }

/-- The mboxes in their order, numbered from zero. -/
def mboxItems (facts : HostFacts) (ofCall : Option Parameters) (mboxes : List MboxRequest) :
    List MboxItem :=
  mboxes.mapIdx fun index mbox =>
    { index
      name := mbox.name
      parameters := Parameters.merge (some facts.contextData) mbox.parameters ofCall }

end HostFacts

namespace DeliveryRequest

/-- Minutes of local time ahead of UTC; a part of a minute is dropped. -/
def minutes (utcOffset : Int32) : Int32 := utcOffset / 60

/-- Bits of a pixel, on whatever screen. -/
def bitsPerPixel : UInt32 := 32

/-- The payload of a request, if there is anything to send. -/
def assemble (facts : HostFacts) (utcOffset : Int32) (c : Configuration) (visitor : IdentityState)
    (selection : MboxSelection) (ofCall : Option Parameters) (notifications : List Notification) :
    Except Failure DeliveryRequest :=
  if selection.isEmpty && notifications.isEmpty then .error .emptyRequest
  else .ok {
    ids := facts.visitorIds visitor
    device := facts.device
    colorDepth := bitsPerPixel
    timeOffset := minutes utcOffset
    audience := facts.audience
    prefetch :=
      match selection with
      | .prefetch (m :: ms) => some (facts.mboxItems ofCall (m :: ms))
      | _ => none
    execute :=
      match selection with
      | .execute (m :: ms) => some (facts.mboxItems ofCall (m :: ms))
      | _ => none
    notifications
    environmentId := c.environmentId
    property := c.propertyInEffect?
  }

end DeliveryRequest

end ContentDelivery
