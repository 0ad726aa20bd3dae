/-
ContentDelivery.Visitor.Session — who the visitor is and which session goes on.

A session is loaded from the store once; after that every change of it
is also written to the store, where `Session.Change` holds both. A
session without activity for longer than its timeout is expired: the
next read of its id starts a new one, and the next read of its edge host
finds none. The clock is read in whole seconds.
-/
import ContentDelivery.Host.KeyValueStore
import ContentDelivery.Json.Basic
import ContentDelivery.Number.Duration
import ContentDelivery.Text.Nonempty

namespace ContentDelivery

/-! ## Stored keys -/

namespace StoreKey

def tntId : String := "tnt.id"

def thirdPartyId : String := "third.party.id"

def edgeHost : String := "edge.host"

def sessionId : String := "session.id"

def sessionTimestamp : String := "session.timestamp"

end StoreKey

/-- What the host is told about the visitor. -/
structure IdentityState where
  tntId : Option String
  thirdPartyId : Option String
deriving DecidableEq, Repr

structure Session where
  tntId : Option String
  thirdPartyId : Option String
  edgeHost : Option String
  /-- Empty until the next read starts a session. -/
  id : String
  /-- The second of the last activity. -/
  startedAt : Option Int64
  timeout : Duration
deriving DecidableEq

/-- A session after a change, with what the change wrote to the store. -/
structure Session.Change where
  session : Session
  writes : List StoreEdit
deriving DecidableEq

namespace Session

/-- Half an hour. -/
def defaultTimeout : Duration := .ofSeconds 1800

/-- The session that a store holds. -/
def load (store : KeyValueStore σ) (s : σ) : Session where
  tntId := store.getString? s StoreKey.tntId
  thirdPartyId := store.getString? s StoreKey.thirdPartyId
  edgeHost := store.getString? s StoreKey.edgeHost
  id := (store.getString? s StoreKey.sessionId).getD ""
  startedAt := store.getInteger? s StoreKey.sessionTimestamp
  timeout := defaultTimeout

def identity (s : Session) : IdentityState := { tntId := s.tntId, thirdPartyId := s.thirdPartyId }

/-! ## Expiry -/

/-- The difference of two instants, held within 64 bits. -/
def elapsed (now startedAt : Int64) : Int64 := Int64.ofIntClamp (now.toInt - startedAt.toInt)

/-- The whole seconds of the timeout, held within 64 bits. -/
def timeoutSeconds (s : Session) : Int64 := Int64.ofIntClamp s.timeout.seconds.toNat

/-- Whether the last activity lies more than the timeout back. -/
def isExpired (now : Int64) (s : Session) : Bool :=
  match s.startedAt with
  | none => false
  | some startedAt => decide (s.timeoutSeconds < elapsed now startedAt)

/-! ## Changes -/

namespace Change

/-- One change after another. -/
def andThen (c : Change) (f : Session → Change) : Change :=
  let d := f c.session
  { session := d.session, writes := c.writes ++ d.writes }

@[simp] theorem andThen_session (c : Change) (f : Session → Change) :
    (c.andThen f).session = (f c.session).session := rfl

@[simp] theorem andThen_writes (c : Change) (f : Session → Change) :
    (c.andThen f).writes = c.writes ++ (f c.session).writes := rfl

end Change

/-- No change. -/
def unchanged (s : Session) : Change := { session := s, writes := [] }

@[simp] theorem unchanged_session (s : Session) : s.unchanged.session = s := rfl

@[simp] theorem unchanged_writes (s : Session) : s.unchanged.writes = [] := rfl

/-- The write that puts a string under a key, or takes away what is there. -/
def storeText (key : String) : Option String → StoreEdit
  | some value => .setString key value
  | none => .remove key

@[simp] theorem key_storeText (key : String) (value : Option String) :
    (storeText key value).key = key := by cases value <;> rfl

@[simp] theorem string?_storeText (key : String) (value : Option String) :
    (storeText key value).string? = value := by cases value <;> rfl

@[simp] theorem integer?_storeText (key : String) (value : Option String) :
    (storeText key value).integer? = none := by cases value <;> rfl

/-- Replaces the edge host, where an empty one counts as none. Nothing is written if it stays. -/
def setEdgeHost (host : Option String) (s : Session) : Change :=
  if nonempty? host = s.edgeHost then s.unchanged
  else
    { session := { s with edgeHost := nonempty? host }
      writes := [storeText StoreKey.edgeHost (nonempty? host)] }

/-- The session does not show whether the edge host was written. -/
@[simp] theorem session_setEdgeHost (host : Option String) (s : Session) :
    (s.setEdgeHost host).session = { s with edgeHost := nonempty? host } := by
  unfold setEdgeHost
  split
  · next same =>
    rw [same]
    rfl
  · rfl

/-- Replaces the visitor's id, where an empty one counts as none. -/
def setTntId (id : Option String) (s : Session) : Change where
  session := { s with tntId := nonempty? id }
  writes := [storeText StoreKey.tntId (nonempty? id)]

/-- Replaces the host's own id of the visitor, where an empty one counts as none. -/
def setThirdPartyId (id : Option String) (s : Session) : Change where
  session := { s with thirdPartyId := nonempty? id }
  writes := [storeText StoreKey.thirdPartyId (nonempty? id)]

def setTimeout (timeout : Duration) (s : Session) : Session := { s with timeout }

/-- Records activity. -/
def refresh (now : Int64) (s : Session) : Change where
  session := { s with startedAt := some now }
  writes := [.setInteger StoreKey.sessionTimestamp now]

/-- Ends the session: the next read of its id starts a new one. -/
def finish (s : Session) : Change where
  session := { s with startedAt := some 0, id := "" }
  writes := [.remove StoreKey.sessionTimestamp, .remove StoreKey.sessionId]

/-- Forgets the visitor and ends the session. -/
def forget (s : Session) : Change :=
  (((s.setTntId none).andThen (setThirdPartyId none)).andThen (setEdgeHost none)).andThen finish

@[simp] theorem session_forget (s : Session) :
    s.forget.session =
      { s with
        tntId := none
        thirdPartyId := none
        edgeHost := none
        id := ""
        startedAt := some 0 } := by
  simp [forget, setTntId, setThirdPartyId, finish, nonempty?_none]

/-! ## Reads -/

/-- Takes up a new id. -/
def restart (now : Int64) (freshId : String) (s : Session) : Change :=
  { session := { s with id := freshId }
    writes := [.setString StoreKey.sessionId freshId] : Change }.andThen (refresh now)

/-- Reads the id, which is that of the session afterwards: `freshId`, if there was none or the
session was expired. -/
def readId (now : Int64) (freshId : String) (s : Session) : Change :=
  if s.id.isEmpty || s.isExpired now then s.restart now freshId else s.unchanged

/-- Reads the edge host, which is that of the session afterwards: none, if it was expired. -/
def readEdgeHost (now : Int64) (s : Session) : Change :=
  if s.isExpired now then s.setEdgeHost none else s.unchanged

end Session

/-! ## JSON -/

/-- Ids that are absent are left out. -/
def IdentityState.toJson (i : IdentityState) : Json :=
  .ofFields (Json.optionalText "tntid" i.tntId ++ Json.optionalText "thirdpartyid" i.thirdPartyId)

end ContentDelivery
