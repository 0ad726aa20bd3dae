/-
ContentDelivery.Proofs.Client.Failures — what a failed call leaves behind.

A call can fail in three places, each of which leaves another trace.

* Early: the configuration does not allow it, or it has nothing to send.
  Then nothing at all was done (`rejection_atomic`).
* At the endpoint: the chosen host makes no URL. The session's id is part
  of the URL, so the session was read by then; if it did not go on, a new
  one was started and written (`configuration_failure`).
* On the way: the transport returns a failure, or the reply cannot be
  read. The reports are gone, and the session was read; all else is as it
  was (`round_trip_failed`).

So what a failure changes is at most what reading the session changes,
and that is nothing as long as a session goes on. `Run.outage` says so of
any number of calls in a row.
-/
import ContentDelivery.Proofs.Client.Continuity
import ContentDelivery.Proofs.Client.Publication

namespace ContentDelivery

/-! ## Failures of a call -/

/-- The failures of calls that are rejected before the session is read. -/
def Failure.isEarly : Failure → Bool
  | configurationMissing | clientCodeEmpty | optedOut | emptyRequest | mboxNotCached _ => true
  | invalidUrl | network _ | application _ _ | malformedReply | intakePanicked | intakeStopped
  | io _ => false

/-- A failure, as the one who asked for a call gets it. -/
def Outcome.failed (direct : Bool) (failure : Failure) : Outcome :=
  if direct then .content (.error failure) else .handled (.error failure)

/-- How a round trip fails: the transport returns a failure, or what came back is no JSON object. -/
inductive RoundTripFails : Except Failure HttpReply → Failure → Prop
  | returned (failure : Failure) : RoundTripFails (.error failure) failure
  | unreadable {reply : HttpReply}
      (no_object : ∀ fields, Json.ofUtf8? reply.body ≠ some (.object fields)) :
      RoundTripFails (.ok reply) .malformedReply

namespace RoundTripFails

variable {answer : Except Failure HttpReply} {failure : Failure}

theorem readable? (fails : RoundTripFails answer failure) : Session.readable? answer = none := by
  rw [← Option.not_isSome_iff_eq_none, Session.isSome_readable?]
  rintro ⟨reply, fields, answered, object⟩
  cases fails with
  | returned => cases answered
  | unreadable no_object =>
    cases answered
    exact no_object fields object

theorem outcome (fails : RoundTripFails answer failure) (kind : CallKind) :
    kind.outcome answer = .error failure := by
  have unreadable := fails.readable?
  cases fails with
  | returned => rfl
  | unreadable no_object =>
    have no_reply : DeliveryReply.ofHttp? _ = none := unreadable
    simp only [CallKind.outcome, no_reply]

end RoundTripFails

/-- An answer comes to a failure of its kind: returned by the transport, read from the reply, or
that there is nothing to read. -/
theorem CallKind.eq_of_outcome {kind : CallKind} {answer : Except Failure HttpReply}
    {failure : Failure} (h : kind.outcome answer = .error failure) :
    answer = .error failure ∨ failure.kind = .application ∨ failure.kind = .parse := by
  unfold outcome at h
  split at h
  · exact .inl (congrArg Except.error (Except.error.inj h))
  · split at h
    · cases h
      exact .inr (.inr rfl)
    · split at h
      · next r reported failed =>
        obtain rfl := Except.error.inj h
        unfold DeliveryReply.failure? at failed
        split at failed
        · cases failed
          exact .inr (.inl rfl)
        · cases failed
      · cases h

namespace Client

/-! ## Refusals -/

theorem isEarly_of_forRequests {current : Option Configuration} {failure : Failure}
    (refused : Configuration.forRequests current = .error failure) : failure.isEarly = true := by
  cases current with
  | none =>
    cases refused
    rfl
  | some configuration =>
    simp only [Configuration.forRequests] at refused
    split at refused
    · cases refused
      rfl
    · split at refused <;> cases refused
      rfl

theorem isEarly_refusal (call : Call) (c : Client) : (c.refusal call).isEarly = true := by
  unfold refusal
  split
  · next refused => exact isEarly_of_forRequests refused
  · split
    · rfl
    · rfl
    · rfl
    · split <;> rfl

/-! ## Calls -/

/-- A call comes to a failure that the transport did not return: no request was sent, or it was
answered otherwise. -/
structure OwnFailure (m : Moment) (failure : Failure) (step : Step Outcome) : Prop where
  result : step.result = .failed m.direct failure
  not_returned : step.request = none ∨ m.answer ≠ .error failure

variable {m : Moment} {call : Call} {c : Client} {failure : Failure}

theorem result_act_eq_failed (op : m.operation = .call call) :
    (c.act m).result = .failed m.direct failure ↔
      (c.perform m.here m.answer call).result = .error failure := by
  rw [result_act_call op c]
  unfold Outcome.failed
  cases (c.perform m.here m.answer call).result <;> cases m.direct <;> simp [Except.map]

/-- A call that fails without news of the visitor tells its failure and nothing else. -/
theorem events_of_failure (op : m.operation = .call call)
    (quiet : (c.perform m.here m.answer call).events = [])
    (failed : (c.perform m.here m.answer call).result = .error failure) :
    (c.act m).events = if m.direct then [] else [.response call.kind (.error failure)] := by
  rw [events_act, op]
  simp only [quiet, failed, List.nil_append]

/-- A call that the configuration does not allow fails for that, whatever it asks for. -/
theorem own_failure_of_forRequests (op : m.operation = .call call)
    (refused : Configuration.forRequests c.configuration = .error failure) :
    OwnFailure m failure (c.act m) := by
  have not_attempted := not_attempts_of_refusal refused m.here call
  have no_request := (refused_of_not_attempts m.answer not_attempted).request
  have failed := result_of_not_attempts m.answer not_attempted
  rw [refusal_eq_of_refusal refused] at failed
  exact ⟨(result_act_eq_failed op).mpr failed, .inl ((request_act_call op c).trans no_request)⟩

/-- A call that is attempted and yet sends no request has no endpoint, and fails for that. -/
theorem own_failure_of_no_endpoint (op : m.operation = .call call)
    (attempted : c.attempts m.here call = true) (no_request : (c.act m).request = none) :
    OwnFailure m .invalidUrl (c.act m) := by
  have failed : (c.perform m.here m.answer call).result = .error .invalidUrl := by
    rcases perform_cases m.here m.answer call c with refused | ⟨_, stranded⟩ | ⟨_, _, sent⟩
    · cases attempted.symm.trans refused.not_attempted
    · exact stranded.result
    · rw [request_act_call op, sent.request] at no_request
      cases no_request
  exact ⟨(result_act_eq_failed op).mpr failed, .inl no_request⟩

/-- **Where a call fails by itself**: it was refused early, it has no endpoint, or the service
answered with something that is no content. -/
theorem own_failure_cases (op : m.operation = .call call) (own : OwnFailure m failure (c.act m)) :
    (Refused m.here call c (c.perform m.here m.answer call) ∧ failure = c.refusal call) ∨
    (∃ configuration, Stranded m.here call c configuration (c.perform m.here m.answer call) ∧
      failure = .invalidUrl) ∨
    failure.kind = .application ∨ failure.kind = .parse := by
  have failed := (result_act_eq_failed op).mp own.result
  rcases perform_cases m.here m.answer call c with refused | ⟨configuration, stranded⟩ |
    ⟨_, request, sent⟩
  · have why := result_of_not_attempts m.answer refused.not_attempted
    exact .inl ⟨refused, Except.error.inj (failed.symm.trans why)⟩
  · have why := Except.error.inj (failed.symm.trans stranded.result)
    exact .inr (.inl ⟨configuration, stranded, why⟩)
  · right
    right
    have asked : (c.act m).request ≠ none := by simp [request_act_call op, sent.request]
    have not_returned := own.not_returned.resolve_left asked
    rw [result_of_request sent.request] at failed
    exact (CallKind.eq_of_outcome failed).resolve_left not_returned

/-! ## Early failures -/

theorem not_isEarly_of_answered (h : failure.kind = .application ∨ failure.kind = .parse) :
    failure.isEarly = false := by
  cases failure <;> simp_all [Failure.kind, Failure.isEarly]

/-- **A rejected call did nothing.** Whatever a call asks for and whatever the client holds: without
a configuration, with an empty client code and without the visitor's consent it fails for that, and
the first of these counts. A call that fails so, or because it has nothing to send, sends no request
and leaves the client exactly as it was; nothing is written, and nothing but the failure is told.
Every other call sends a request or has no endpoint. -/
theorem rejection_atomic (here : Surroundings) (answer : Except Failure HttpReply) (call : Call)
    (direct : Bool) (c : Client) :
    let m : Moment := { here, answer, operation := .call call, direct }
    let step := c.act m
    (c.configuration = none → OwnFailure m .configurationMissing step) ∧
    (∀ configuration, c.configuration = some configuration → configuration.clientCode = "" →
      OwnFailure m .clientCodeEmpty step) ∧
    (∀ configuration, c.configuration = some configuration → configuration.clientCode ≠ "" →
      configuration.privacy ≠ .optedIn → OwnFailure m .optedOut step) ∧
    (∀ failure, failure.isEarly = true → OwnFailure m failure step →
      step.request = none ∧ step.client = c ∧ step.writes = [] ∧
        step.events = if direct then [] else [.response call.kind (.error failure)]) ∧
    ((∃ failure, failure.isEarly = true ∧ OwnFailure m failure step) ∨
      (step.request = none ∧ OwnFailure m .invalidUrl step) ∨
      ∃ request, step.request = some request) := by
  intro m step
  have op : m.operation = .call call := rfl
  have request_eq : step.request = _ := request_act_call op c
  refine ⟨?_, ?_, ?_, ?_, ?_⟩
  · intro none_yet
    exact own_failure_of_forRequests op (by rw [none_yet]; rfl)
  · intro configuration in_effect empty
    exact own_failure_of_forRequests op (by simp [in_effect, Configuration.forRequests, empty])
  · intro configuration in_effect nonempty not_optedIn
    have has_code : configuration.clientCode.isEmpty = false := by
      simpa [String.isEmpty_iff] using nonempty
    have refused : Configuration.forRequests c.configuration = .error .optedOut := by
      simp [in_effect, Configuration.forRequests, has_code, not_optedIn]
    exact own_failure_of_forRequests op refused
  · intro failure early own
    have failed := (result_act_eq_failed op).mp own.result
    rcases own_failure_cases op own with ⟨refused, -⟩ | ⟨_, -, rfl⟩ | answered
    · exact ⟨request_eq.trans refused.request, (client_act_call op c).trans refused.client,
        (writes_act_call op c).trans refused.writes, events_of_failure op refused.events failed⟩
    · cases early
    · cases early.symm.trans (not_isEarly_of_answered answered)
  · rcases perform_cases here answer call c with refused | ⟨configuration, stranded⟩ |
      ⟨_, request, sent⟩
    · have failed := result_of_not_attempts answer refused.not_attempted
      exact .inl ⟨c.refusal call, isEarly_refusal call c, (result_act_eq_failed op).mpr failed,
        .inl (request_eq.trans refused.request)⟩
    · have no_request := request_eq.trans stranded.request
      exact .inr (.inl ⟨no_request, (result_act_eq_failed op).mpr stranded.result, .inl no_request⟩)
    · exact .inr (.inr ⟨request, request_eq.trans sent.request⟩)

/-! ## Failures of the configuration -/

theorem reading_changes_nothing_iff {here : Surroundings} {s : Session} :
    ((s.reading here).writes = [] ∧ (s.reading here).session = s) ↔
      s.id ≠ "" ∧ s.isExpired here.seconds = false := by
  have goes_on_iff : s.startsAnew here = false ↔ s.id ≠ "" ∧ s.isExpired here.seconds = false := by
    simp [Session.startsAnew]
  rw [← goes_on_iff]
  cases starts : s.startsAnew here with
  | false => simp [Session.reading_of_goes_on starts]
  | true => simp [Session.writes_reading_of_starts starts]

/-- **A failure of the configuration is known before anything is done, but for the endpoint.** If a
call fails by itself with a failure of that kind, no request was sent. The session is as it was, and
nothing was written, exactly if the failure is another one than that there is no endpoint, or if the
session goes on. Otherwise the session was read, and what this changed is written. -/
theorem configuration_failure (op : m.operation = .call call) (kind : failure.kind = .configuration)
    (own : OwnFailure m failure (c.act m)) :
    let step := c.act m
    step.request = none ∧
    (step.writes = [] ∧ step.client.session = c.session ↔
      failure ≠ .invalidUrl ∨ c.session.id ≠ "" ∧ c.session.isExpired m.here.seconds = false) ∧
    (failure = .invalidUrl →
      step.writes = (c.session.reading m.here).writes ∧
        step.client.session = (c.session.reading m.here).session) := by
  intro step
  have request_eq : step.request = _ := request_act_call op c
  have client_eq : step.client = _ := client_act_call op c
  have writes_eq : step.writes = _ := writes_act_call op c
  rcases own_failure_cases op own with ⟨refused, why⟩ | ⟨_, stranded, rfl⟩ | answered
  · have early : failure ≠ .invalidUrl := by
      rintro rfl
      cases (why ▸ isEarly_refusal call c : Failure.invalidUrl.isEarly = true)
    have untouched : step.writes = [] ∧ step.client.session = c.session :=
      ⟨writes_eq.trans refused.writes, by rw [client_eq, refused.client]⟩
    exact ⟨request_eq.trans refused.request, iff_of_true untouched (.inl early),
      fun stranded => absurd stranded early⟩
  · have writes_read : step.writes = (c.session.reading m.here).writes :=
      writes_eq.trans stranded.writes
    have session_read : step.client.session = (c.session.reading m.here).session := by
      rw [client_eq, stranded.client]
    refine ⟨request_eq.trans stranded.request, ?_, fun _ => ⟨writes_read, session_read⟩⟩
    rw [writes_read, session_read, reading_changes_nothing_iff]
    simp
  · rw [kind] at answered
    rcases answered with answered | answered <;> cases answered

/-- Half an hour after its last activity a session is not touched by a call that has no endpoint. -/
theorem configuration_failure_in_session :
    let r : Run Storage :=
      { store := .memory
        contents := ((∅ : Storage).insert StoreKey.sessionId (.string "current")).insert
          StoreKey.sessionTimestamp (.integer 0)
        configuration :=
          some { clientCode := "acme", targetServer := some "a b", privacy := .optedIn } }
    let m : Moment :=
      { here :=
          { millis := 1800000, utcOffset := 0, freshSessionId := "next"
            freshNotificationId := fun _ => "", facts := {} }
        answer := .error (.network "down")
        operation := .call (.execute [{ name := "box" }] none), direct := true }
    OwnFailure m .invalidUrl (r.client.act m) ∧ Failure.invalidUrl.kind = .configuration ∧
      (r.client.act m).request = none ∧ (r.client.act m).writes = [] ∧
      (r.client.act m).client.session = r.client.session := by
  intro r m
  have own : OwnFailure m .invalidUrl (r.client.act m) :=
    own_failure_of_no_endpoint rfl (by decide +kernel) (by decide +kernel)
  have going : r.client.session.id ≠ "" ∧ r.client.session.isExpired m.here.seconds = false := by
    decide +kernel
  obtain ⟨no_request, untouched, -⟩ := configuration_failure (m := m) rfl rfl own
  obtain ⟨unwritten, same⟩ := untouched.mpr (.inr going)
  exact ⟨own, rfl, no_request, unwritten, same⟩

/-- Without an endpoint a call fails for the configuration, but a client that had no session has one
afterwards, and it is written. -/
theorem session_starts_without_endpoint :
    let r : Run Storage :=
      { store := .memory, contents := ∅
        configuration :=
          some { clientCode := "acme", targetServer := some "a b", privacy := .optedIn } }
    let m : Moment :=
      { here :=
          { millis := 1700000000000, utcOffset := 0, freshSessionId := "session-1"
            freshNotificationId := fun _ => "", facts := {} }
        answer := .error (.network "no response")
        operation := .call (.execute [{ name := "box" }] none), direct := false }
    OwnFailure m .invalidUrl (r.client.act m) ∧ Failure.invalidUrl.kind = .configuration ∧
      (r.client.act m).writes =
        [.setString StoreKey.sessionId "session-1",
          .setInteger StoreKey.sessionTimestamp 1700000000] ∧
      (r.client.act m).client.session ≠ r.client.session := by
  intro r m
  have own : OwnFailure m .invalidUrl (r.client.act m) :=
    own_failure_of_no_endpoint rfl (by decide +kernel) (by decide +kernel)
  refine ⟨own, rfl, ?_, ?_⟩
  · decide +kernel
  · decide +kernel

/-! ## Failed round trips -/

/-- The session and the store stay as they are when a session goes on and no reply can be read. -/
theorem session_of_unheard (op : m.operation = .call call)
    (unheard : Session.readable? m.answer = none)
    (goes_on : c.session.startsAnew m.here = false) :
    (c.act m).client.session = c.session ∧ (c.act m).writes = [] := by
  have unread : c.session.reading m.here = c.session.unchanged := Session.reading_of_goes_on goes_on
  rw [client_act_call op, writes_act_call op c]
  rcases perform_cases m.here m.answer call c with refused | ⟨_, stranded⟩ | ⟨_, _, sent⟩
  · exact ⟨by rw [refused.client], refused.writes⟩
  · rw [stranded.client, stranded.writes, unread]
    exact ⟨rfl, rfl⟩
  · rw [sent.session, sent.writes, unread]
    simp [Session.learn, unheard]

theorem cache_of_unheard (op : m.operation = .call call)
    (unheard : Session.readable? m.answer = none) : (c.act m).client.cache = c.cache := by
  rw [client_act_call op]
  rcases perform_cases m.here m.answer call c with refused | ⟨_, stranded⟩ | ⟨_, _, sent⟩
  · rw [refused.client]
  · rw [stranded.client]
  · rw [sent.cache]
    simp [Cache.learn, DeliveryReply.success?_eq, unheard]

/-- What a client is left with by a round trip that failed. -/
structure LeftBy (m : Moment) (kind : CallKind) (failure : Failure) (c : Client)
    (step : Step Outcome) : Prop where
  result : step.result = .failed m.direct failure
  events : step.events = if m.direct then [] else [.response kind (.error failure)]
  configuration : step.client.configuration = c.configuration
  identifiers : step.client.identifiers = c.identifiers
  cache : step.client.cache = c.cache
  pending : step.client.pending = []
  session : step.client.session = (c.session.reading m.here).session
  writes : step.writes = (c.session.reading m.here).writes

/-- **A failed round trip changes what reading the session changes**, takes the pending reports
along and comes to the failure of the round trip; nothing is told of the visitor. If a session goes
on, its reading changes nothing, so that the session is as it was and nothing is written. -/
theorem round_trip_failed {request : HttpRequest} (op : m.operation = .call call)
    (asked : (c.act m).request = some request) (fails : RoundTripFails m.answer failure) :
    let step := c.act m
    LeftBy m call.kind failure c step ∧
    (c.session.id ≠ "" → c.session.isExpired m.here.seconds = false →
      step.writes = [] ∧ step.client.session = c.session) := by
  intro step
  have client_eq : step.client = _ := client_act_call op c
  have unheard := fails.readable?
  obtain ⟨_, configuration, same_op, sent⟩ := exists_sent_of_request asked
  cases op.symm.trans same_op
  have failed := (result_of_request sent.request).trans (fails.outcome call.kind)
  have session_eq : step.client.session = (c.session.reading m.here).session := by
    rw [client_eq, sent.session]
    simp [Session.learn, unheard]
  have quiet : (c.perform m.here m.answer call).events = [] := by
    simp [sent.events, unheard]
  refine ⟨?_, ?_⟩
  · exact {
      result := (result_act_eq_failed op).mpr failed
      events := events_of_failure op quiet failed
      configuration := by rw [client_eq, sent.configuration_eq]
      identifiers := by
        rw [identifiers, session_eq]
        exact Session.identity_reading m.here c.session
      cache := cache_of_unheard op unheard
      pending := by rw [client_eq, sent.pending]
      session := session_eq
      writes := by
        rw [writes_act_call op c, sent.writes]
        simp [Session.learn, unheard] }
  · intro has_id not_expired
    have goes_on : c.session.startsAnew m.here = false := by
      simp [Session.startsAnew, has_id, not_expired]
    exact (session_of_unheard op unheard goes_on).symm

/-- The transport returns a failure half an hour after the last activity of a session. -/
theorem round_trip_failed_in_session :
    let r : Run Storage :=
      { store := .memory
        contents := ((∅ : Storage).insert StoreKey.sessionId (.string "current")).insert
          StoreKey.sessionTimestamp (.integer 0)
        configuration := some { clientCode := "acme", privacy := .optedIn } }
    let m : Moment :=
      { here :=
          { millis := 1800000, utcOffset := 0, freshSessionId := "next"
            freshNotificationId := fun _ => "", facts := {} }
        answer := .error (.network "down")
        operation := .call (.execute [{ name := "box" }] none), direct := true }
    let step := r.client.act m
    (∃ request, step.request = some request) ∧ RoundTripFails m.answer (.network "down") ∧
      LeftBy m .execute (.network "down") r.client step ∧ step.writes = [] ∧
      step.client.session = r.client.session := by
  intro r m step
  have asked : step.request.isSome = true := by decide +kernel
  obtain ⟨request, asked⟩ := Option.isSome_iff_exists.mp asked
  have fails : RoundTripFails m.answer (.network "down") := .returned _
  have going : r.client.session.id ≠ "" ∧ r.client.session.isExpired m.here.seconds = false := by
    decide +kernel
  obtain ⟨left, untouched⟩ := round_trip_failed (m := m) rfl asked fails
  exact ⟨⟨request, asked⟩, fails, left, untouched going.1 going.2⟩

end Client

/-! ## Runs -/

namespace Run

/-- **An outage costs nothing but the reports that are sent meanwhile.** As long as the session does
not expire, calls to which no reply can be read leave the session, the content, the configuration
and the store as they were, however many there are. -/
theorem outage (r : Run σ) {later : List Moment}
    (down : ∀ m ∈ later, (∃ call, m.operation = .call call) ∧
      Session.readable? m.answer = none ∧ r.client.session.startsAnew m.here = false) :
    (r.extend later).client.session = r.client.session ∧
      (r.extend later).client.cache = r.client.cache ∧
      (r.extend later).client.configuration = r.client.configuration ∧
      (r.extend later).writes = r.writes := by
  induction later using List.reverseRecOn with
  | nil => simp [extend]
  | append_singleton later m ih =>
    obtain ⟨session, cache, configuration, writes⟩ :=
      ih fun earlier among => down earlier (List.mem_append_left _ among)
    obtain ⟨⟨call, op⟩, unheard, goes_on⟩ := down m (by simp)
    have extend_eq : r.extend (later ++ [m]) = (r.extend later).next m := by simp [extend, next]
    rw [← session] at goes_on
    obtain ⟨same_session, unwritten⟩ := Client.session_of_unheard op unheard goes_on
    rw [extend_eq, client_next, writes_next]
    refine ⟨same_session.trans session, (Client.cache_of_unheard op unheard).trans cache, ?_, ?_⟩
    · rw [Client.configuration_act, op]
      exact configuration
    · rw [unwritten, List.append_nil]
      exact writes

end Run

end ContentDelivery
