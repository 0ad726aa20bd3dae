/-
ContentDelivery.Proofs.Visitor.Coherence — a session and its store tell the same.

`reload_agrees`: over a faithful store that nobody else writes, a
session that is loaded anew has the ids and the edge host of the one in
use, whatever the store held at first (nothing, empty strings, values of
the other type) and whatever was done since. The second of the last
activity agrees too, with one exception. An ended session holds 0 where
its store holds nothing, until activity is recorded again; its id is
empty until then.

`Coherent` is that agreement as an invariant. Its flag says on which side
of the exception the session is. Each change has one lemma that tells
what it does to the flag; the changes that skip a write (`setEdgeHost`
with the host that is there) rest on the invariant itself, since what is
skipped would write what the store already holds. For the same reason
forgetting a visitor leaves nothing in the store (`erased_forget`).
-/
import ContentDelivery.Visitor.Session
import Mathlib.Data.List.Induction

namespace ContentDelivery

namespace Session

/-! ## Coherence -/

/-- Store and session agree, where `ended` tells that the session was ended and that no activity
was recorded since. -/
structure Coherent (store : KeyValueStore σ) (s : σ) (ended : Bool) (x : Session) : Prop where
  tntId : store.getString? s StoreKey.tntId = x.tntId
  thirdPartyId : store.getString? s StoreKey.thirdPartyId = x.thirdPartyId
  edgeHost : store.getString? s StoreKey.edgeHost = x.edgeHost
  id : (store.getString? s StoreKey.sessionId).getD "" = x.id
  startedAt : ended = false → store.getInteger? s StoreKey.sessionTimestamp = x.startedAt
  startedAt_of_ended : ended = true →
    store.getInteger? s StoreKey.sessionTimestamp = none ∧ x.startedAt = some 0 ∧ x.id = ""

/-- Nothing that a session writes is found in the store. -/
structure Erased (store : KeyValueStore σ) (s : σ) : Prop where
  tntId : store.getString? s StoreKey.tntId = none
  thirdPartyId : store.getString? s StoreKey.thirdPartyId = none
  edgeHost : store.getString? s StoreKey.edgeHost = none
  sessionId : store.getString? s StoreKey.sessionId = none
  sessionTimestamp : store.getInteger? s StoreKey.sessionTimestamp = none

theorem coherent_load (store : KeyValueStore σ) (s : σ) :
    Coherent store s false (load store s) where
  tntId := rfl
  thirdPartyId := rfl
  edgeHost := rfl
  id := rfl
  startedAt := fun _ => rfl
  startedAt_of_ended := by simp

namespace Coherent

variable {store : KeyValueStore σ} {s : σ} {ended : Bool} {x : Session}

/-! ## What each change does to it

The keys differ as texts, so a write under one of them leaves the others alone. -/

attribute [local simp] StoreKey.tntId StoreKey.thirdPartyId StoreKey.edgeHost StoreKey.sessionId
  StoreKey.sessionTimestamp

theorem setTntId (faithful : store.Faithful) (h : Coherent store s ended x) (id : Option String) :
    Coherent store (store.writeAll (x.setTntId id).writes s) ended (x.setTntId id).session where
  tntId := by simp [Session.setTntId, faithful.getString?_write]
  thirdPartyId := by simpa [Session.setTntId, faithful.getString?_write] using h.thirdPartyId
  edgeHost := by simpa [Session.setTntId, faithful.getString?_write] using h.edgeHost
  id := by simpa [Session.setTntId, faithful.getString?_write] using h.id
  startedAt := by simpa [Session.setTntId, faithful.getInteger?_write] using h.startedAt
  startedAt_of_ended := by
    simpa [Session.setTntId, faithful.getInteger?_write] using h.startedAt_of_ended

theorem setThirdPartyId (faithful : store.Faithful) (h : Coherent store s ended x)
    (id : Option String) :
    Coherent store (store.writeAll (x.setThirdPartyId id).writes s) ended
      (x.setThirdPartyId id).session where
  tntId := by simpa [Session.setThirdPartyId, faithful.getString?_write] using h.tntId
  thirdPartyId := by simp [Session.setThirdPartyId, faithful.getString?_write]
  edgeHost := by simpa [Session.setThirdPartyId, faithful.getString?_write] using h.edgeHost
  id := by simpa [Session.setThirdPartyId, faithful.getString?_write] using h.id
  startedAt := by simpa [Session.setThirdPartyId, faithful.getInteger?_write] using h.startedAt
  startedAt_of_ended := by
    simpa [Session.setThirdPartyId, faithful.getInteger?_write] using h.startedAt_of_ended

/-- The write that is skipped when the host stays would change nothing: the store holds that host
already. -/
theorem setEdgeHost (faithful : store.Faithful) (h : Coherent store s ended x)
    (host : Option String) :
    Coherent store (store.writeAll (x.setEdgeHost host).writes s) ended
      (x.setEdgeHost host).session := by
  by_cases same : nonempty? host = x.edgeHost
  · simpa [Session.setEdgeHost, same] using h
  · simp only [Session.setEdgeHost, if_neg same]
    exact {
      tntId := by simpa [faithful.getString?_write] using h.tntId
      thirdPartyId := by simpa [faithful.getString?_write] using h.thirdPartyId
      edgeHost := by simp [faithful.getString?_write]
      id := by simpa [faithful.getString?_write] using h.id
      startedAt := by simpa [faithful.getInteger?_write] using h.startedAt
      startedAt_of_ended := by simpa [faithful.getInteger?_write] using h.startedAt_of_ended }

/-- The store does not know the timeout. -/
theorem setTimeout (h : Coherent store s ended x) (timeout : Duration) :
    Coherent store s ended (x.setTimeout timeout) := { h with }

/-- Activity ends the exception. -/
theorem refresh (faithful : store.Faithful) (h : Coherent store s ended x) (now : Int64) :
    Coherent store (store.writeAll (x.refresh now).writes s) false (x.refresh now).session where
  tntId := by simpa [Session.refresh, faithful.getString?_write] using h.tntId
  thirdPartyId := by simpa [Session.refresh, faithful.getString?_write] using h.thirdPartyId
  edgeHost := by simpa [Session.refresh, faithful.getString?_write] using h.edgeHost
  id := by simpa [Session.refresh, faithful.getString?_write] using h.id
  startedAt := by simp [Session.refresh, faithful.getInteger?_write]
  startedAt_of_ended := by simp

theorem finish (faithful : store.Faithful) (h : Coherent store s ended x) :
    Coherent store (store.writeAll x.finish.writes s) true x.finish.session where
  tntId := by simpa [Session.finish, faithful.getString?_write] using h.tntId
  thirdPartyId := by simpa [Session.finish, faithful.getString?_write] using h.thirdPartyId
  edgeHost := by simpa [Session.finish, faithful.getString?_write] using h.edgeHost
  id := by simp [Session.finish, faithful.getString?_write]
  startedAt := by simp
  startedAt_of_ended := by simp [Session.finish, faithful.getInteger?_write]

theorem forget (faithful : store.Faithful) (h : Coherent store s ended x) :
    Coherent store (store.writeAll x.forget.writes s) true x.forget.session := by
  have cleared := ((h.setTntId faithful none).setThirdPartyId faithful none).setEdgeHost
    faithful none
  simpa [Session.forget] using cleared.finish faithful

theorem restart (faithful : store.Faithful) (h : Coherent store s ended x) (now : Int64)
    (freshId : String) :
    Coherent store (store.writeAll (x.restart now freshId).writes s) false
      (x.restart now freshId).session where
  tntId := by simpa [Session.restart, Session.refresh, faithful.getString?_write] using h.tntId
  thirdPartyId := by
    simpa [Session.restart, Session.refresh, faithful.getString?_write] using h.thirdPartyId
  edgeHost := by
    simpa [Session.restart, Session.refresh, faithful.getString?_write] using h.edgeHost
  id := by simp [Session.restart, Session.refresh, faithful.getString?_write]
  startedAt := by simp [Session.restart, Session.refresh, faithful.getInteger?_write]
  startedAt_of_ended := by simp

/-- An ended session has no id, so that reading its id always records activity. -/
theorem readId (faithful : store.Faithful) (h : Coherent store s ended x) (now : Int64)
    (freshId : String) :
    Coherent store (store.writeAll (x.readId now freshId).writes s) false
      (x.readId now freshId).session := by
  unfold Session.readId
  split
  · exact h.restart faithful now freshId
  · next going =>
    have not_ended : ended = false := by
      rw [← Bool.not_eq_true]
      intro is_ended
      exact going (by simp [(h.startedAt_of_ended is_ended).2.2])
    exact not_ended ▸ h

theorem readEdgeHost (faithful : store.Faithful) (h : Coherent store s ended x) (now : Int64) :
    Coherent store (store.writeAll (x.readEdgeHost now).writes s) ended
      (x.readEdgeHost now).session := by
  unfold Session.readEdgeHost
  split
  · exact h.setEdgeHost faithful none
  · exact h

/-- A session that has an id is in the store, with the second of its last activity. -/
theorem stored_of_id (h : Coherent store s ended x) (has_id : x.id ≠ "") :
    store.getString? s StoreKey.sessionId = some x.id ∧
      store.getInteger? s StoreKey.sessionTimestamp = x.startedAt := by
  have goes_on : ended = false := by
    by_contra has_ended
    exact has_id (h.startedAt_of_ended (by simpa using has_ended)).2.2
  refine ⟨?_, h.startedAt goes_on⟩
  have found := h.id
  cases read : store.getString? s StoreKey.sessionId with
  | none =>
    rw [read] at found
    exact absurd found.symm has_id
  | some id =>
    rw [read] at found
    exact congrArg some found

/-! ## What forgetting leaves in the store -/

/-- Forgetting a visitor removes all that a session ever wrote. The edge host is not removed if the
session has none; it is missing then, since the two agree. -/
theorem erased_forget (faithful : store.Faithful) (h : Coherent store s ended x) :
    Erased store (store.writeAll x.forget.writes s) := by
  have forgotten := h.forget faithful
  have session_eq := session_forget x
  exact {
    tntId := by rw [forgotten.tntId, session_eq]
    thirdPartyId := by rw [forgotten.thirdPartyId, session_eq]
    edgeHost := by rw [forgotten.edgeHost, session_eq]
    sessionId := by simp [Session.forget, Session.finish, faithful.getString?_write]
    sessionTimestamp := (forgotten.startedAt_of_ended rfl).1 }

end Coherent

/-! ## Operations and runs of them -/

/-- What can be done with a session. The clock may stand anywhere each time it is read. -/
inductive Operation where
  | readId (now : Int64) (freshId : String)
  | readEdgeHost (now : Int64)
  | setEdgeHost (host : Option String)
  | setTntId (id : Option String)
  | setThirdPartyId (id : Option String)
  | setTimeout (timeout : Duration)
  | refresh (now : Int64)
  | finish
  | forget

def Operation.apply : Operation → Session → Change
  | readId now freshId => Session.readId now freshId
  | readEdgeHost now => Session.readEdgeHost now
  | setEdgeHost host => Session.setEdgeHost host
  | setTntId id => Session.setTntId id
  | setThirdPartyId id => Session.setThirdPartyId id
  | setTimeout timeout => fun x => (x.setTimeout timeout).unchanged
  | refresh now => Session.refresh now
  | finish => Session.finish
  | forget => Session.forget

/-- Whether the session is ended without activity since, after an operation on one that was
(`ended`) or was not. Reading the id of an ended session records activity. -/
def Operation.leavesEnded (ended : Bool) : Operation → Bool
  | finish | forget => true
  | refresh _ | readId _ _ => false
  | readEdgeHost _ | setEdgeHost _ | setTntId _ | setThirdPartyId _ | setTimeout _ => ended

/-- Operations one after another, the first one first. -/
def run (operations : List Operation) (x : Session) : Change :=
  operations.foldl (fun change operation => change.andThen operation.apply) x.unchanged

/-- Whether the last of the operations that end a session or record activity ended it. -/
def endsEnded (operations : List Operation) : Bool :=
  operations.foldl Operation.leavesEnded false

theorem run_concat (operations : List Operation) (last : Operation) (x : Session) :
    x.run (operations ++ [last]) = (x.run operations).andThen last.apply := by
  simp [run]

/-! ## Coherence of a run -/

theorem Coherent.apply {store : KeyValueStore σ} (faithful : store.Faithful) {s : σ} {ended : Bool}
    {x : Session} (h : Coherent store s ended x) (operation : Operation) :
    Coherent store (store.writeAll (operation.apply x).writes s) (operation.leavesEnded ended)
      (operation.apply x).session := by
  cases operation with
  | readId now freshId => exact h.readId faithful now freshId
  | readEdgeHost now => exact h.readEdgeHost faithful now
  | setEdgeHost host => exact h.setEdgeHost faithful host
  | setTntId id => exact h.setTntId faithful id
  | setThirdPartyId id => exact h.setThirdPartyId faithful id
  | setTimeout timeout => exact h.setTimeout timeout
  | refresh now => exact h.refresh faithful now
  | finish => exact h.finish faithful
  | forget => exact h.forget faithful

theorem Coherent.run {store : KeyValueStore σ} (faithful : store.Faithful) {s : σ} {ended : Bool}
    {x : Session} (h : Coherent store s ended x) (operations : List Operation) :
    Coherent store (store.writeAll (x.run operations).writes s)
      (operations.foldl Operation.leavesEnded ended) (x.run operations).session := by
  -- By the last operation, since the flag depends on what came before it.
  induction operations using List.reverseRecOn with
  | nil => exact h
  | append_singleton operations last ih =>
    rw [run_concat]
    simpa using ih.apply faithful last

theorem coherent_run {store : KeyValueStore σ} (faithful : store.Faithful) (s : σ)
    (operations : List Operation) :
    Coherent store (store.writeAll ((load store s).run operations).writes s) (endsEnded operations)
      ((load store s).run operations).session :=
  (coherent_load store s).run faithful operations

/-! ## What is written -/

/-- A write as sessions make it: a string that says something under a key of strings, a whole
number as the second of the last activity, or the removal of what they wrote. -/
def IsOwnWrite : StoreEdit → Prop
  | .setString key value =>
    value ≠ "" ∧
      key ∈ [StoreKey.tntId, StoreKey.thirdPartyId, StoreKey.edgeHost, StoreKey.sessionId]
  | .setInteger key _ => key = StoreKey.sessionTimestamp
  | .remove key =>
    key ∈ [StoreKey.tntId, StoreKey.thirdPartyId, StoreKey.edgeHost, StoreKey.sessionId,
      StoreKey.sessionTimestamp]

theorem isOwnWrite_storeText {key : String}
    (known : key ∈ [StoreKey.tntId, StoreKey.thirdPartyId, StoreKey.edgeHost, StoreKey.sessionId])
    (value : Option String) : IsOwnWrite (storeText key (nonempty? value)) := by
  cases said : nonempty? value with
  | none => exact List.mem_append_left [StoreKey.sessionTimestamp] known
  | some text => exact ⟨(nonempty?_eq_some.mp said).2, known⟩

theorem isOwnWrite_setEdgeHost (host : Option String) (x : Session) :
    ∀ w ∈ (x.setEdgeHost host).writes, IsOwnWrite w := by
  intro w hw
  unfold setEdgeHost at hw
  split at hw
  · simp at hw
  · obtain rfl := List.mem_singleton.mp hw
    exact isOwnWrite_storeText (by simp) host

theorem isOwnWrite_setTntId (id : Option String) (x : Session) :
    ∀ w ∈ (x.setTntId id).writes, IsOwnWrite w := by
  intro w hw
  obtain rfl := List.mem_singleton.mp hw
  exact isOwnWrite_storeText (by simp) id

theorem isOwnWrite_setThirdPartyId (id : Option String) (x : Session) :
    ∀ w ∈ (x.setThirdPartyId id).writes, IsOwnWrite w := by
  intro w hw
  obtain rfl := List.mem_singleton.mp hw
  exact isOwnWrite_storeText (by simp) id

theorem isOwnWrite_refresh (now : Int64) (x : Session) :
    ∀ w ∈ (x.refresh now).writes, IsOwnWrite w := by
  intro w hw
  obtain rfl := List.mem_singleton.mp hw
  rfl

theorem isOwnWrite_finish (x : Session) : ∀ w ∈ x.finish.writes, IsOwnWrite w := by
  intro w hw
  simp only [finish, List.mem_cons, List.not_mem_nil, or_false] at hw
  rcases hw with rfl | rfl <;> simp [IsOwnWrite]

theorem isOwnWrite_forget (x : Session) : ∀ w ∈ x.forget.writes, IsOwnWrite w := by
  intro w hw
  simp only [forget, Change.andThen_writes, List.mem_append] at hw
  rcases hw with ((hw | hw) | hw) | hw
  · exact isOwnWrite_setTntId none _ w hw
  · exact isOwnWrite_setThirdPartyId none _ w hw
  · exact isOwnWrite_setEdgeHost none _ w hw
  · exact isOwnWrite_finish _ w hw

/-- Only the ids of new sessions come from outside unchecked. -/
theorem isOwnWrite_readId {freshId : String} (fresh : freshId ≠ "") (now : Int64) (x : Session) :
    ∀ w ∈ (x.readId now freshId).writes, IsOwnWrite w := by
  intro w hw
  unfold readId at hw
  split at hw
  · simp only [restart, Change.andThen_writes, List.mem_append, List.mem_singleton] at hw
    rcases hw with rfl | hw
    · exact ⟨fresh, by simp⟩
    · exact isOwnWrite_refresh now _ w hw
  · simp at hw

theorem isOwnWrite_readEdgeHost (now : Int64) (x : Session) :
    ∀ w ∈ (x.readEdgeHost now).writes, IsOwnWrite w := by
  intro w hw
  unfold readEdgeHost at hw
  split at hw
  · exact isOwnWrite_setEdgeHost none x w hw
  · simp at hw

theorem isOwnWrite_apply {operation : Operation}
    (fresh : ∀ now freshId, operation = .readId now freshId → freshId ≠ "") (x : Session) :
    ∀ w ∈ (operation.apply x).writes, IsOwnWrite w := by
  cases operation with
  | readId now freshId => exact isOwnWrite_readId (fresh now freshId rfl) now x
  | readEdgeHost now => exact isOwnWrite_readEdgeHost now x
  | setEdgeHost host => exact isOwnWrite_setEdgeHost host x
  | setTntId id => exact isOwnWrite_setTntId id x
  | setThirdPartyId id => exact isOwnWrite_setThirdPartyId id x
  | setTimeout timeout => simp [Operation.apply]
  | refresh now => exact isOwnWrite_refresh now x
  | finish => exact isOwnWrite_finish x
  | forget => exact isOwnWrite_forget x

theorem isOwnWrite_run {operations : List Operation}
    (fresh : ∀ now freshId, .readId now freshId ∈ operations → freshId ≠ "") (x : Session) :
    ∀ w ∈ (x.run operations).writes, IsOwnWrite w := by
  induction operations using List.reverseRecOn with
  | nil => simp [run]
  | append_singleton operations last ih =>
    intro w hw
    rw [run_concat, Change.andThen_writes, List.mem_append] at hw
    rcases hw with hw | hw
    · exact ih (fun now freshId h => fresh now freshId (List.mem_append_left _ h)) w hw
    · refine isOwnWrite_apply (fun now freshId h => fresh now freshId ?_) _ w hw
      simp [h]

/-! ## Loading anew -/

/-- **Write-through**: over a faithful store that nobody else writes, loading anew gives the ids
and the edge host of the session in use, and the second of its last activity, unless it was ended
and no activity was recorded since. Whatever was written on the way is of the session's own kind,
as long as the ids of new sessions are not empty. -/
theorem reload_agrees {store : KeyValueStore σ} (faithful : store.Faithful) (s : σ)
    (operations : List Operation) :
    let live := ((load store s).run operations).session
    let writes := ((load store s).run operations).writes
    let loaded := load store (store.writeAll writes s)
    loaded.tntId = live.tntId ∧
    loaded.thirdPartyId = live.thirdPartyId ∧
    loaded.edgeHost = live.edgeHost ∧
    loaded.id = live.id ∧
    (endsEnded operations = false → loaded.startedAt = live.startedAt) ∧
    (endsEnded operations = true →
      live.startedAt = some 0 ∧ loaded.startedAt = none ∧ live.id = "") ∧
    ((∀ now freshId, .readId now freshId ∈ operations → freshId ≠ "") →
      ∀ w ∈ writes, IsOwnWrite w) := by
  intro live writes loaded
  have coherent := coherent_run faithful s operations
  refine ⟨coherent.tntId, coherent.thirdPartyId, coherent.edgeHost, coherent.id,
    coherent.startedAt, ?_, ?_⟩
  · intro ended
    obtain ⟨missing, zero, no_id⟩ := coherent.startedAt_of_ended ended
    exact ⟨zero, missing, no_id⟩
  · intro fresh
    exact isOwnWrite_run fresh _

/-- A store with an empty edge host and a visitor's id of the other type, and a session that is
ended. -/
theorem reload_agrees_after_forgetting :
    let contents : Storage := ((∅ : Storage).insert StoreKey.edgeHost (.string "")).insert
      StoreKey.tntId (.integer 7)
    let operations : List Operation :=
      [.readId 7 "first", .setEdgeHost (some "edge"), .forget, .setTntId (some "visitor")]
    let live := ((load .memory contents).run operations).session
    let writes := ((load .memory contents).run operations).writes
    let loaded := load .memory (KeyValueStore.memory.writeAll writes contents)
    KeyValueStore.memory.Faithful ∧
    loaded.tntId = some "visitor" ∧ loaded.edgeHost = none ∧ loaded.id = "" ∧
    live.startedAt = some 0 ∧ loaded.startedAt = none ∧
    ∀ w ∈ writes, IsOwnWrite w := by
  intro contents operations live writes loaded
  obtain ⟨tntId, -, edgeHost, id, -, ended, own⟩ :=
    reload_agrees KeyValueStore.memory_faithful contents operations
  obtain ⟨zero, missing, no_id⟩ := ended rfl
  refine ⟨KeyValueStore.memory_faithful, tntId.trans rfl, edgeHost.trans rfl, id.trans no_id, zero,
    missing, own ?_⟩
  intro now freshId h
  obtain ⟨-, rfl⟩ : now = 7 ∧ freshId = "first" := by simpa [operations] using h
  decide

end Session

end ContentDelivery
