/-
ContentDelivery.Client.Reconciliation — what a reply changes.

A reply that cannot be read changes nothing. Every other one counts as
activity and may replace the visitor's id and the edge host, also when
it reports an error. Only replies without an error bring content.
-/
import ContentDelivery.Client.Call
import ContentDelivery.Content.Cache
import ContentDelivery.Exchange.Reply

namespace ContentDelivery

structure Reconciliation where
  session : Session
  cache : Cache
  writes : List StoreEdit
  result : Except Failure ContentMap

namespace DeliveryReply

/-- The mboxes that answer a call. -/
def content (kind : CallKind) (r : DeliveryReply) : ContentMap :=
  match kind with
  | .prefetch => r.mboxes "prefetch"
  | .execute => r.mboxes "execute"
  | .displayed | .clicked => ∅

end DeliveryReply

namespace Session

/-- Replaces what the reply tells of the visitor. -/
def absorb (now : Int64) (r : DeliveryReply) (s : Session) : Change :=
  ((s.refresh now).andThen fun s =>
    match r.tntId? with
    | some id => s.setTntId (some id)
    | none => s.unchanged).andThen fun s =>
    match r.edgeHost? with
    | some host => s.setEdgeHost (some host)
    | none => s.unchanged

end Session

namespace Cache

/-- Holds the content that answers a call. -/
def keep (kind : CallKind) (returned : ContentMap) (c : Cache) : Cache :=
  match kind with
  | .prefetch => c.addPrefetched returned
  | .execute => c.addLoaded returned
  | .displayed | .clicked => c

end Cache

/-- Takes in the reply to a call. -/
def reconcile (now : Int64) (kind : CallKind) (reply : HttpReply) (session : Session)
    (cache : Cache) : Reconciliation :=
  match DeliveryReply.ofHttp? reply with
  | none => { session, cache, writes := [], result := .error .malformedReply }
  | some r =>
    let change := session.absorb now r
    match r.failure? with
    | some failure =>
      { session := change.session, cache, writes := change.writes, result := .error failure }
    | none =>
      { session := change.session
        cache := cache.keep kind (r.content kind)
        writes := change.writes
        result := .ok (r.content kind) }

end ContentDelivery
