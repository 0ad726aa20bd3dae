/-
ContentDelivery.Exchange.Transport — what goes over the wire.

A request is always a post of its payload as JSON. A reply is whatever
came back, also when its status tells of an error.
-/
import ContentDelivery.Exchange.Payload
import ContentDelivery.Number.Duration
import ContentDelivery.Url.Basic

namespace ContentDelivery

structure HttpRequest where
  url : Url
  payload : DeliveryRequest
  /-- How long connecting and reading may take. -/
  timeout : Duration
deriving DecidableEq

structure HttpReply where
  status : UInt16
  body : ByteArray

end ContentDelivery
