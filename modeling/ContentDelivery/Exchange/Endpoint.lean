/-
ContentDelivery.Exchange.Endpoint — where requests are sent.

The host is the configured server, or else the edge host that the
service named last, or else one that belongs to the client code. The
query tells the client code and the session.
-/
import ContentDelivery.Host.Configuration
import ContentDelivery.Url.Reading

namespace ContentDelivery.Endpoint

/-- What follows the client code in the host that belongs to it. -/
def defaultHostSuffix : String := ".tt.omtrdc.net"

def path : String := "/rest/v1/delivery/"

/-- The host as it is chosen, before it is read. -/
def hostText (c : Configuration) (edgeHost : Option String) : String :=
  (c.serverInEffect?.or (nonempty? edgeHost)).getD (c.clientCode ++ defaultHostSuffix)

def query (c : Configuration) (sessionId : String) : List (String × String) :=
  [("client", c.clientCode), ("sessionId", sessionId)]

/-- The URL of the endpoint, if the chosen host makes one. -/
def url? (c : Configuration) (edgeHost : Option String) (sessionId : String) : Option Url :=
  (Url.ofText? ("//" ++ hostText c edgeHost ++ path).toList).map
    (Url.appendPairs (query c sessionId))

end ContentDelivery.Endpoint
