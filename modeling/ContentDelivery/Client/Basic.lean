/-
ContentDelivery.Client.Basic — the client and its operations.

An operation takes the client and what surrounds it at that moment, and
gives a `Step`: the client afterwards, the result, the request that was
sent if there was one, the events for the host and the writes to the
store, each in their order. A call has two halves: `begin` runs up to
the request, `conclude` takes the answer to it.
-/
import ContentDelivery.Client.Reconciliation
import ContentDelivery.Exchange.Endpoint

namespace ContentDelivery

/-- What an operation finds around the client; it does not change during the operation. -/
structure Surroundings where
  /-- Milliseconds since the epoch. -/
  millis : Int64
  /-- Seconds of local time ahead of UTC. -/
  utcOffset : Int32
  /-- The id of a session that starts now. -/
  freshSessionId : String
  /-- The ids of the notifications that are made now, by their number. -/
  freshNotificationId : Nat → String
  facts : HostFacts

/-- The whole seconds since the epoch. -/
def Surroundings.seconds (here : Surroundings) : Int64 := Int64.ofInt (here.millis.toInt / 1000)

structure Client where
  session : Session
  cache : Cache := {}
  /-- Notifications that wait for the next request. -/
  pending : List Notification := []
  configuration : Option Configuration := none

/-- What an operation did. -/
structure Step (α : Type) where
  client : Client
  result : α
  request : Option HttpRequest := none
  events : List Event := []
  writes : List StoreEdit := []

/-- A call up to its request, or up to why there is none. -/
structure Departure where
  client : Client
  request : Except Failure HttpRequest
  writes : List StoreEdit := []

namespace Client

/-! ## Calls up to the request -/

/-- Sends mboxes and all pending notifications. The edge host is read before the session's id,
since reading the id records activity. -/
def dispatch (here : Surroundings) (selection : MboxSelection) (parameters : Option Parameters)
    (c : Client) : Departure :=
  match Configuration.forRequests c.configuration with
  | .error failure => { client := c, request := .error failure }
  | .ok configuration =>
    if selection.isEmpty && c.pending.isEmpty then { client := c, request := .error .emptyRequest }
    else
      let read := (c.session.readEdgeHost here.seconds).andThen
        (Session.readId here.seconds here.freshSessionId)
      match Endpoint.url? configuration read.session.edgeHost read.session.id with
      | none =>
        { client := { c with session := read.session }
          request := .error .invalidUrl
          writes := read.writes }
      | some url =>
        { client := { c with session := read.session, pending := [] }
          request :=
            (DeliveryRequest.assemble here.facts here.utcOffset configuration c.session.identity
              selection parameters c.pending).map
              fun payload => { url, payload, timeout := configuration.networkTimeout }
          writes := read.writes }

/-- The prefetched mboxes among some names, each once, in the order of the names. -/
def displayable (names : List String) (cache : Cache) : List (String × MboxContent) :=
  (names.filter (!·.isEmpty)).eraseDups.filterMap fun name =>
    if cache.loaded.contains name then none
    else cache.prefetched[name]?.map fun content => (name, content)

/-- The reports of displays; content without a state or without tokens is passed over. -/
def displays (here : Surroundings) (parameters : Parameters)
    (shown : List (String × MboxContent)) : List Notification :=
  shown.foldl (fun made (name, content) =>
    made ++ (Notification.display? (here.freshNotificationId made.length) here.millis parameters
      name content).toList) []

/-- Reports displays, along with what is pending. -/
def beginDisplayed (here : Surroundings) (names : List String) (parameters : Option Parameters)
    (c : Client) : Departure :=
  match Configuration.forRequests c.configuration with
  | .error failure => { client := c, request := .error failure }
  | .ok _ =>
    let made := displays here (here.facts.notificationParameters parameters)
      (displayable names c.cache)
    if (c.pending ++ made).isEmpty then { client := c, request := .error .emptyRequest }
    else { c with pending := c.pending ++ made }.dispatch here .none parameters

/-- Reports a click, along with what is pending. -/
def beginClicked (here : Surroundings) (name : String) (parameters : Option Parameters)
    (c : Client) : Departure :=
  match Configuration.forRequests c.configuration with
  | .error failure => { client := c, request := .error failure }
  | .ok _ =>
    match c.cache.find? name with
    | none => { client := c, request := .error (.mboxNotCached name) }
    | some content =>
      match Notification.click? (here.freshNotificationId 0) here.millis
          (here.facts.notificationParameters parameters) name content with
      | none => { client := c, request := .error .emptyRequest }
      | some made => { c with pending := c.pending ++ [made] }.dispatch here .none parameters

def begin (here : Surroundings) (call : Call) (c : Client) : Departure :=
  match call with
  | .prefetch mboxes parameters => c.dispatch here (.prefetch mboxes) parameters
  | .execute mboxes parameters => c.dispatch here (.execute mboxes) parameters
  | .displayed names parameters => c.beginDisplayed here names parameters
  | .clicked name parameters => c.beginClicked here name parameters

/-! ## Calls from the answer on -/

/-- Takes the answer to a request. The host is told who the visitor is if the reply was read. -/
def conclude (here : Surroundings) (kind : CallKind) (answer : Except Failure HttpReply)
    (c : Client) : Step (Except Failure ContentMap) :=
  match answer with
  | .error failure => { client := c, result := .error failure }
  | .ok reply =>
    let r := reconcile here.seconds kind reply c.session c.cache
    { client := { c with session := r.session, cache := r.cache }
      result := r.result
      events :=
        match r.result with
        | .error .malformedReply => []
        | _ => [.sharedState r.session.identity]
      writes := r.writes }

/-- A whole call; the answer counts only if a request is sent. -/
def perform (here : Surroundings) (answer : Except Failure HttpReply) (call : Call) (c : Client) :
    Step (Except Failure ContentMap) :=
  let departure := c.begin here call
  match departure.request with
  | .error failure =>
    { client := departure.client, result := .error failure, writes := departure.writes }
  | .ok request =>
    let rest := departure.client.conclude here call.kind answer
    { rest with request := some request, writes := departure.writes ++ rest.writes }

/-! ## Other operations -/

def identifiers (c : Client) : IdentityState := c.session.identity

/-- Forgets the visitor, the session, all content and what is pending. -/
def reset (c : Client) : Step Unit :=
  let change := c.session.forget
  let client := { c with session := change.session, cache := {}, pending := [] }
  { client, result := (), events := [.sharedState client.identifiers], writes := change.writes }

/-- Replaces the host's own id of the visitor, unless the visitor opted out. -/
def setThirdPartyId (id : Option String) (c : Client) : Step Unit :=
  if c.configuration.map Configuration.privacy = some .optedOut then { client := c, result := () }
  else
    let change := c.session.setThirdPartyId id
    let client := { c with session := change.session }
    { client, result := (), events := [.sharedState client.identifiers], writes := change.writes }

/-- Whether a configuration brings another client code; the first one always does. -/
def changesClientCode (configuration : Configuration) (c : Client) : Bool :=
  c.configuration.map Configuration.clientCode != some configuration.clientCode

/-- Puts a configuration in effect. The edge host does not outlive a change of the client code,
and a visitor who opts out is forgotten. -/
def configure (configuration : Configuration) (c : Client) : Step Unit :=
  let change :=
    if c.changesClientCode configuration then c.session.setEdgeHost none else c.session.unchanged
  let client : Client :=
    { c with
      session :=
        change.session.setTimeout (configuration.sessionTimeout.getD Session.defaultTimeout)
      configuration := some configuration }
  if configuration.privacy = .optedOut then
    let forgotten := client.reset
    { forgotten with writes := change.writes ++ forgotten.writes }
  else { client, result := (), writes := change.writes }

/-- A client over what a store holds, with a configuration if there is one already. -/
def start (store : KeyValueStore σ) (s : σ) (configuration : Option Configuration) : Step Unit :=
  let client : Client := { session := Session.load store s }
  match configuration with
  | none => { client, result := () }
  | some configuration => client.configure configuration

/-! ## Operations with their outcome published -/

/-- Any operation; the outcome of a call is published as the last event. -/
def handle (here : Surroundings) (answer : Except Failure HttpReply) (operation : Operation)
    (c : Client) : Step (Except Failure Unit) :=
  match operation with
  | .call call =>
    let step := c.perform here answer call
    { step with
      result := step.result.map fun _ => ()
      events := step.events ++ [.response call.kind step.result] }
  | .reset => { c.reset with result := .ok () }
  | .setThirdPartyId id => { c.setThirdPartyId id with result := .ok () }
  | .getIdentifiers =>
    { client := c, result := .ok (), events := [.identityResponse c.identifiers] }
  | .configure configuration => { c.configure configuration with result := .ok () }

end Client

end ContentDelivery
