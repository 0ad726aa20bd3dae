/-
ContentDelivery.Host.Facts — what the host answers when a call asks it.
-/
import ContentDelivery.Host.Device
import ContentDelivery.Host.Identity
import ContentDelivery.Host.Lifecycle

namespace ContentDelivery

structure HostFacts where
  device : Device := {}
  lifecycle : Option StringMap := none
  identity : Option Identity := none
deriving DecidableEq

/-- The parameters that follow from the lifecycle of the app. -/
def HostFacts.contextData (facts : HostFacts) : StringMap :=
  (facts.lifecycle.map Lifecycle.contextData).getD ∅

end ContentDelivery
