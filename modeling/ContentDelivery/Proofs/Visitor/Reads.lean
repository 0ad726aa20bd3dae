/-
ContentDelivery.Proofs.Visitor.Reads — what the two reads of a session do to each other.

Both reads judge whether the session is expired, and both may change it.
The read of the edge host clears it in an expired session; the read of the
id starts a new session, which is not expired any more
(`not_isExpired_readId`).

So their order matters (`reads_commute_iff`): with the edge host first
both find the session expired, and the edge host is gone. With the id
first the read of the edge host comes upon a new session and returns the
edge host of the old one. It is for this that requests read the edge host
first.

After both reads, the edge host first, a session has settled
(`reads_settle`): further reads return the same and write nothing until
the session expires.
-/
import ContentDelivery.Proofs.Visitor.Coherence
import ContentDelivery.Proofs.Visitor.Expiry

namespace ContentDelivery.Session

variable {now : Int64} {freshId : String} {s : Session}

/-! ## The edge host -/

/-- An edge host has no say in when the session expires. -/
@[simp] theorem isExpired_with_edgeHost (now : Int64) (host : Option String) (s : Session) :
    { s with edgeHost := host }.isExpired now = s.isExpired now := rfl

@[simp] theorem session_readEdgeHost (now : Int64) (s : Session) :
    (s.readEdgeHost now).session =
      { s with edgeHost := if s.isExpired now then none else s.edgeHost } := by
  unfold readEdgeHost
  cases s.isExpired now <;> simp [nonempty?_none]

/-- An edge host that is cleared is removed from the store as well. -/
theorem writes_readEdgeHost (now : Int64) (s : Session) :
    (s.readEdgeHost now).writes =
      if s.isExpired now = true ∧ s.edgeHost ≠ none then [.remove StoreKey.edgeHost] else [] := by
  unfold readEdgeHost
  cases expired : s.isExpired now with
  | false => simp
  | true =>
    cases host : s.edgeHost with
    | none => simp [setEdgeHost, host, nonempty?_none]
    | some host => simp [setEdgeHost, host, nonempty?_none, storeText]

theorem readEdgeHost_eq_unchanged
    (nothing_to_clear : s.isExpired now = false ∨ s.edgeHost = none) :
    s.readEdgeHost now = s.unchanged := by
  unfold readEdgeHost
  rcases nothing_to_clear with goes_on | no_host
  · simp [goes_on]
  · simp [setEdgeHost, no_host, nonempty?_none]

/-! ## The id -/

theorem readId_of_goes_on (has_id : s.id ≠ "") (goes_on : s.isExpired now = false) :
    s.readId now freshId = s.unchanged := by
  simp [readId, has_id, goes_on]

/-- The read of the id leaves the edge host alone, whatever it is. -/
theorem readId_with_edgeHost (now : Int64) (freshId : String) (host : Option String) (s : Session) :
    { s with edgeHost := host }.readId now freshId =
      { session := { (s.readId now freshId).session with edgeHost := host }
        writes := (s.readId now freshId).writes } := by
  unfold readId
  rw [isExpired_with_edgeHost]
  cases s.id.isEmpty || s.isExpired now <;> rfl

@[simp] theorem edgeHost_readId (now : Int64) (freshId : String) (s : Session) :
    (s.readId now freshId).session.edgeHost = s.edgeHost := by
  unfold readId
  cases s.id.isEmpty || s.isExpired now <;> rfl

theorem key_ne_edgeHost_readId (now : Int64) (freshId : String) (s : Session) :
    ∀ w ∈ (s.readId now freshId).writes, w.key ≠ StoreKey.edgeHost := by
  unfold readId
  split
  · simp [restart, refresh, StoreEdit.key, StoreKey.sessionId, StoreKey.sessionTimestamp,
      StoreKey.edgeHost]
  · simp

/-- A session whose id was read goes on at that instant: it did so before, or it was started. -/
theorem not_isExpired_readId (now : Int64) (freshId : String) (s : Session) :
    (s.readId now freshId).session.isExpired now = false := by
  unfold readId
  split
  · exact not_isExpired_of_startedAt rfl
  · next goes_on =>
    have going : s.id ≠ "" ∧ s.isExpired now = false := by simpa using goes_on
    exact going.2

theorem id_readId_ne_empty (fresh : freshId ≠ "") : (s.readId now freshId).session.id ≠ "" := by
  unfold readId
  split
  · exact fresh
  · next goes_on =>
    have going : s.id ≠ "" ∧ s.isExpired now = false := by simpa using goes_on
    exact going.1

/-! ## Their order -/

theorem unchanged_andThen (s : Session) (f : Session → Change) : s.unchanged.andThen f = f s := rfl

/-- With the id first, the read of the edge host finds a session that goes on. -/
theorem readId_andThen_readEdgeHost (now : Int64) (freshId : String) (s : Session) :
    (s.readId now freshId).andThen (readEdgeHost now) = s.readId now freshId := by
  rw [Change.andThen, readEdgeHost_eq_unchanged (.inl (not_isExpired_readId now freshId s)),
    unchanged_session, unchanged_writes, List.append_nil]

/-- With the edge host first, the read of the id finds the session as expired as it was. -/
theorem readEdgeHost_andThen_readId_eq (now : Int64) (freshId : String) (s : Session) :
    (s.readEdgeHost now).andThen (readId now freshId) =
      { session := { (s.readId now freshId).session with
          edgeHost := if s.isExpired now then none else s.edgeHost }
        writes := (s.readEdgeHost now).writes ++ (s.readId now freshId).writes } := by
  rw [Change.andThen, session_readEdgeHost, readId_with_edgeHost]

/-- **The order of the reads.** At one instant the two reads come to the same in either order, unless
the session is expired and has an edge host. Each returns what the session has after both. With the
edge host first, an expired session has none afterwards, and it is removed from the store. With the
id first the edge host stays, expired or not; nothing is written under its key. -/
theorem reads_commute_iff (now : Int64) (freshId : String) (s : Session) :
    let hostFirst := (s.readEdgeHost now).andThen (readId now freshId)
    let idFirst := (s.readId now freshId).andThen (readEdgeHost now)
    (hostFirst = idFirst ↔ s.isExpired now = false ∨ s.edgeHost = none) ∧
    (s.readEdgeHost now).session.edgeHost = hostFirst.session.edgeHost ∧
    (s.readId now freshId).session.id = idFirst.session.id ∧
    hostFirst.session.edgeHost = (if s.isExpired now then none else s.edgeHost) ∧
    idFirst.session = { hostFirst.session with edgeHost := s.edgeHost } ∧
    hostFirst.writes =
      (if s.isExpired now = true ∧ s.edgeHost ≠ none then [.remove StoreKey.edgeHost] else []) ++
        idFirst.writes ∧
    ∀ w ∈ idFirst.writes, w.key ≠ StoreKey.edgeHost := by
  intro hostFirst idFirst
  have hostFirst_eq : hostFirst = _ := readEdgeHost_andThen_readId_eq now freshId s
  have idFirst_eq : idFirst = s.readId now freshId := readId_andThen_readEdgeHost now freshId s
  have host_after : hostFirst.session.edgeHost = if s.isExpired now then none else s.edgeHost := by
    rw [hostFirst_eq]
  have session_eq : idFirst.session = { hostFirst.session with edgeHost := s.edgeHost } := by
    rw [idFirst_eq, hostFirst_eq, ← edgeHost_readId now freshId s]
  refine ⟨⟨?_, ?_⟩, ?_, ?_, host_after, session_eq, ?_, ?_⟩
  · intro same
    rw [same, session_eq] at host_after
    cases expired : s.isExpired now with
    | false => exact .inl rfl
    | true => simpa [expired] using host_after
  · intro nothing_to_clear
    have unchanged := readEdgeHost_eq_unchanged nothing_to_clear
    exact (congrArg (·.andThen (readId now freshId)) unchanged).trans idFirst_eq.symm
  · rw [hostFirst_eq, session_readEdgeHost]
  · rw [idFirst_eq]
  · rw [idFirst_eq, hostFirst_eq, writes_readEdgeHost]
  · rw [idFirst_eq]
    exact key_ne_edgeHost_readId now freshId s

/-- An expired session with an edge host: the host is gone if it is read first, and passes for that
of the new session if the id is read first. -/
theorem stale_edge_host_after_id :
    let s : Session :=
      { tntId := none, thirdPartyId := none, edgeHost := some "edge", id := "sid"
        startedAt := some 1699990000, timeout := defaultTimeout }
    let now : Int64 := 1700000000
    let hostFirst := (s.readEdgeHost now).andThen (readId now "session-1")
    let idFirst := (s.readId now "session-1").andThen (readEdgeHost now)
    s.isExpired now = true ∧ hostFirst ≠ idFirst ∧
      hostFirst.session.id = "session-1" ∧ hostFirst.session.edgeHost = none ∧
      idFirst.session.id = "session-1" ∧ idFirst.session.edgeHost = some "edge" := by
  decide

/-! ## Settled sessions -/

/-- Whether an operation is a read at an instant. -/
inductive Operation.IsReadAt (now : Int64) : Operation → Prop where
  | readId (freshId : String) : IsReadAt now (.readId now freshId)
  | readEdgeHost : IsReadAt now (.readEdgeHost now)

/-- A session that has an id and goes on is read without a change. -/
theorem apply_of_isReadAt {read : Operation} (is_read : read.IsReadAt now) (has_id : s.id ≠ "")
    (goes_on : s.isExpired now = false) : read.apply s = s.unchanged := by
  cases is_read with
  | readId freshId => exact readId_of_goes_on has_id goes_on
  | readEdgeHost => exact readEdgeHost_eq_unchanged (.inl goes_on)

theorem run_of_isReadAt (has_id : s.id ≠ "") (reads : List Operation)
    (going : ∀ read ∈ reads, ∃ now, read.IsReadAt now ∧ s.isExpired now = false) :
    s.run reads = s.unchanged := by
  induction reads using List.reverseRecOn with
  | nil => rfl
  | append_singleton reads last ih =>
    obtain ⟨now, is_read, goes_on⟩ := going last (by simp)
    have before := ih fun read h => going read (List.mem_append_left _ h)
    rw [run_concat, before, unchanged_andThen]
    exact apply_of_isReadAt is_read has_id goes_on

/-- **Reads settle.** Whatever a session is like, after a read of its edge host and one of its id it
has an id and goes on, and has no edge host if it was expired. From then on reads change nothing,
return the same and write nothing, however many there are, in whatever order and at whatever
instants, as long as the session is not expired at them. An expired session stays expired, as long
as neither the second of its last activity nor its timeout changes. -/
theorem reads_settle (now : Int64) {freshId : String} (fresh : freshId ≠ "") (s : Session) :
    let settled := ((s.readEdgeHost now).andThen (readId now freshId)).session
    settled.id ≠ "" ∧ settled.isExpired now = false ∧
    (s.isExpired now = true → settled.edgeHost = none) ∧
    (∀ reads : List Operation,
      (∀ read ∈ reads, ∃ later, read.IsReadAt later ∧ settled.isExpired later = false) →
      settled.run reads = settled.unchanged) ∧
    ∀ (t : Session) (earlier later : Int64), t.startedAt = s.startedAt → t.timeout = s.timeout →
      earlier ≤ later → s.isExpired earlier = true → t.isExpired later = true := by
  intro settled
  have has_id : settled.id ≠ "" := id_readId_ne_empty fresh
  refine ⟨has_id, not_isExpired_readId .., ?_, run_of_isReadAt has_id, ?_⟩
  · intro expired
    have host : settled.edgeHost = (s.readEdgeHost now).session.edgeHost := edgeHost_readId ..
    rw [host, session_readEdgeHost, expired, if_pos rfl]
  · intro t earlier later startedAt timeout ordered expired
    exact isExpired_mono startedAt timeout ordered expired

/-- A session that was expired, read until half an hour later and not in the order of the clock. -/
theorem reads_settle_after_expiry :
    let s : Session :=
      { tntId := none, thirdPartyId := none, edgeHost := some "edge", id := "sid"
        startedAt := some 1699990000, timeout := defaultTimeout }
    let now : Int64 := 1700000000
    let settled := ((s.readEdgeHost now).andThen (readId now "session-1")).session
    "session-1" ≠ "" ∧ s.isExpired now = true ∧ settled.edgeHost = none ∧
      settled.run [.readId (now + 1800) "session-2", .readEdgeHost (now + 900),
        .readId (now + 900) "session-3"] = settled.unchanged ∧
      s.isExpired (now + 1800) = true := by
  intro s now settled
  have fresh : "session-1" ≠ "" := by decide
  have expired : s.isExpired now = true := by decide
  obtain ⟨-, -, cleared, settles, stays_expired⟩ := reads_settle now fresh s
  refine ⟨fresh, expired, cleared expired, settles _ ?_,
    stays_expired s now (now + 1800) rfl rfl (by decide) expired⟩
  intro read h
  simp only [List.mem_cons, List.not_mem_nil, or_false] at h
  obtain rfl | rfl | rfl := h
  · exact ⟨now + 1800, .readId "session-2", by decide⟩
  · exact ⟨now + 900, .readEdgeHost, by decide⟩
  · exact ⟨now + 900, .readId "session-3", by decide⟩

end ContentDelivery.Session
