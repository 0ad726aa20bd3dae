/-
ContentDelivery.Client.Call — what the host asks of the client, and what it is told.

A call is an operation that goes to the service. The others change or
tell what the client holds.
-/
import ContentDelivery.Content.Mbox
import ContentDelivery.Exchange.Assembly

namespace ContentDelivery

inductive Call where
  /-- Fetch content ahead of its display. -/
  | prefetch (mboxes : List MboxRequest) (parameters : Option Parameters)
  /-- Fetch content to display at once. -/
  | execute (mboxes : List MboxRequest) (parameters : Option Parameters)
  /-- Report that prefetched content was displayed. -/
  | displayed (names : List String) (parameters : Option Parameters)
  /-- Report a click on content. -/
  | clicked (name : String) (parameters : Option Parameters)
deriving DecidableEq

inductive CallKind where
  | prefetch
  | execute
  | displayed
  | clicked
deriving DecidableEq, Repr

inductive Operation where
  | call (c : Call)
  /-- Forget the visitor, the session and all content. -/
  | reset
  | setThirdPartyId (id : Option String)
  | getIdentifiers
  | configure (c : Configuration)
deriving DecidableEq

def Call.kind : Call → CallKind
  | prefetch _ _ => .prefetch
  | execute _ _ => .execute
  | displayed _ _ => .displayed
  | clicked _ _ => .clicked

def CallKind.name : CallKind → String
  | prefetch => "prefetch"
  | execute => "execute"
  | displayed => "locations_displayed"
  | clicked => "location_clicked"

/-- What the client tells the host by itself. -/
inductive Event where
  /-- How a call came out: the content that the service returned, or why there is none. -/
  | response (kind : CallKind) (result : Except Failure ContentMap)
  /-- Who the visitor is, after a reply or a change. -/
  | sharedState (visitor : IdentityState)
  /-- Who the visitor is, because the host asked. -/
  | identityResponse (visitor : IdentityState)

end ContentDelivery
