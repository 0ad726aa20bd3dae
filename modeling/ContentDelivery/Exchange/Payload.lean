/-
ContentDelivery.Exchange.Payload — what a request tells the service.

The payload names the visitor and the device, asks for mboxes to
prefetch or to execute, and takes waiting notifications along. In JSON
whatever is absent, and an empty list of notifications or of customer
ids, is left out.
-/
import ContentDelivery.Content.Notification
import ContentDelivery.Host.Device
import ContentDelivery.Host.Identity

namespace ContentDelivery

/-- An mbox that is asked for, with its place among those of the request. -/
structure MboxItem where
  index : Nat
  name : String
  parameters : Parameters
deriving DecidableEq

/-- The ids that the visitor is known by. -/
structure VisitorIds where
  tntId : Option String
  thirdPartyId : Option String
  marketingCloudId : Option String
  customerIds : List VisitorId
deriving DecidableEq

/-- What the audience manager knows of the visitor. -/
structure AudienceData where
  blob : Option String
  locationHint : Option String
deriving DecidableEq

structure DeliveryRequest where
  ids : VisitorIds
  device : Device
  /-- Bits of a pixel of the screen. -/
  colorDepth : UInt32
  /-- Minutes of local time ahead of UTC. -/
  timeOffset : Int32
  audience : Option AudienceData
  prefetch : Option (List MboxItem)
  execute : Option (List MboxItem)
  notifications : List Notification
  environmentId : Int64
  property : Option String
deriving DecidableEq

/-! ## JSON -/

namespace MboxItem

def fields (m : MboxItem) : List (String × Json) :=
  [("index", .int m.index), ("name", .string m.name)]

/-- The parameters stand beside the item's own fields. -/
def toJson (m : MboxItem) : Json := .ofFields (m.fields ++ m.parameters.fields)

end MboxItem

namespace VisitorIds

/-- An id that was synced with the identity service. -/
def customerIdJson (v : VisitorId) : Json :=
  .ofFields
    [ ("id", .string v.id),
      ("integrationCode", .string v.idType),
      ("authenticatedState", .string v.state.name) ]

def toJson (ids : VisitorIds) : Json :=
  .ofFields <|
    Json.optionalText "tntId" ids.tntId ++
    Json.optionalText "thirdPartyId" ids.thirdPartyId ++
    Json.optionalText "marketingCloudVisitorId" ids.marketingCloudId ++
    (if ids.customerIds.isEmpty then []
     else [("customerIds", .array (ids.customerIds.map customerIdJson))])

end VisitorIds

namespace AudienceData

def toJson (a : AudienceData) : Json :=
  .ofFields (Json.optionalText "blob" a.blob ++ Json.optionalText "locationHint" a.locationHint)

end AudienceData

namespace DeliveryRequest

def platformJson (d : Device) : Json :=
  .ofFields <|
    Json.optionalText "deviceName" d.deviceName ++
    [("deviceType", .string d.deviceType.name), ("platformType", .string d.platformType.name)]

def applicationJson (d : Device) : Json :=
  .ofFields <|
    Json.optionalText "id" d.appId ++
    Json.optionalText "name" d.appName ++
    Json.optionalText "version" d.appVersion

def screenJson (r : DeliveryRequest) : Json :=
  .ofFields
    [ ("colorDepth", .int r.colorDepth.toNat),
      ("width", .int r.device.screenWidth.toNat),
      ("height", .int r.device.screenHeight.toNat),
      ("orientation", .string r.device.orientation.name) ]

def contextJson (r : DeliveryRequest) : Json :=
  .ofFields <|
    [ ("channel", .string "mobile"),
      ("mobilePlatform", platformJson r.device),
      ("application", applicationJson r.device),
      ("screen", r.screenJson),
      ("timeOffsetInMinutes", .int r.timeOffset.toInt) ] ++
    Json.optionalText "userAgent" r.device.userAgent

/-- The client itself reports to analytics. -/
def experienceCloudJson (r : DeliveryRequest) : Json :=
  .ofFields <|
    Json.optionalField "audienceManager" (r.audience.map AudienceData.toJson) ++
    [("analytics", .ofFields [("logging", .string "client_side")])]

def mboxesJson (items : List MboxItem) : Json :=
  .ofFields [("mboxes", .array (items.map MboxItem.toJson))]

def toJson (r : DeliveryRequest) : Json :=
  .ofFields <|
    [ ("id", r.ids.toJson),
      ("context", r.contextJson),
      ("experienceCloud", r.experienceCloudJson) ] ++
    Json.optionalField "prefetch" (r.prefetch.map mboxesJson) ++
    Json.optionalField "execute" (r.execute.map mboxesJson) ++
    (if r.notifications.isEmpty then []
     else [("notifications", .array (r.notifications.map Notification.toJson))]) ++
    [("environmentId", .int r.environmentId.toInt)] ++
    Json.optionalField "property"
      (r.property.map fun token => .ofFields [("token", .string token)])

end DeliveryRequest

end ContentDelivery
