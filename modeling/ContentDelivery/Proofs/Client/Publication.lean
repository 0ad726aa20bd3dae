/-
ContentDelivery.Proofs.Client.Publication — what the host is told, and when.

`publishes`: an operation that is handed over has its outcome published
exactly once. A call ends in one response, which says what the call came
to; if there was a reply that can be read, the response is preceded by
who the visitor is now. The other operations tell who the visitor is, or
nothing.

From this follows what a host can rely on over a whole run. It is told
of each call that it handed over once and in their order
(`Run.responses_eq`), and what was shared with it last about the visitor
is still true (`shared_state_current`): whatever changes the identity
says so in the same step, whichever way the step ends (`Step.Shares`).
-/
import ContentDelivery.Proofs.Client.Privacy

namespace ContentDelivery

/-! ## Events -/

namespace Event

/-- The call that an event answers, with what it came to. -/
def response? : Event → Option (CallKind × Except Failure ContentMap)
  | response kind result => some (kind, result)
  | sharedState _ | identityResponse _ => none

/-- Who the visitor is, as an event shares it unasked. -/
def shared? : Event → Option IdentityState
  | sharedState visitor => some visitor
  | identityResponse _ | response _ _ => none

theorem mem_filterMap_shared? {visitor : IdentityState} {events : List Event} :
    visitor ∈ events.filterMap shared? ↔ .sharedState visitor ∈ events := by
  rw [List.mem_filterMap]
  constructor
  · rintro ⟨event, among, shared⟩
    cases event with
    | sharedState told =>
      obtain rfl := Option.some.inj shared
      exact among
    | identityResponse told => cases shared
    | response kind result => cases shared
  · intro among
    exact ⟨.sharedState visitor, among, rfl⟩

end Event

/-- No identity at all. -/
def IdentityState.unknown : IdentityState := { tntId := none, thirdPartyId := none }

/-! ## Identities -/

namespace Session

/-- A reply can be read if its body is a JSON object. -/
theorem isSome_readable? {answer : Except Failure HttpReply} :
    (readable? answer).isSome = true ↔
      ∃ reply fields, answer = .ok reply ∧ Json.ofUtf8? reply.body = some (.object fields) := by
  cases answer with
  | error failure => simp [readable?, Except.toOption]
  | ok reply =>
    have of_fields : (DeliveryReply.ofHttp? reply).isSome = true ↔
        ∃ fields, Json.ofUtf8? reply.body = some (.object fields) := by
      rw [DeliveryReply.ofHttp?, Option.isSome_map]
      cases read : Json.ofUtf8? reply.body with
      | none => simp
      | some body => cases body <;> simp [Json.asObject?]
    simpa [readable?, Except.toOption] using of_fields

theorem identity_readEdgeHost (now : Int64) (s : Session) :
    (s.readEdgeHost now).session.identity = s.identity := by
  unfold readEdgeHost
  split <;> simp [identity]

theorem identity_readId (now : Int64) (freshId : String) (s : Session) :
    (s.readId now freshId).session.identity = s.identity := by
  unfold readId
  split <;> rfl

/-- Reading the session for a request may start another one, but for the same visitor. -/
theorem identity_reading (here : Surroundings) (s : Session) :
    (s.reading here).session.identity = s.identity :=
  (identity_readId here.seconds here.freshSessionId _).trans
    (identity_readEdgeHost here.seconds s)

theorem identity_forget (s : Session) : s.forget.session.identity = .unknown := by
  rw [session_forget]
  rfl

end Session

namespace Client

theorem identifiers_reconfigured (configuration : Configuration) (c : Client) :
    (c.reconfigured configuration).session.identity = c.session.identity := by
  unfold reconfigured
  cases c.changesClientCode configuration <;> simp [Session.setTimeout, Session.identity]

/-! ## Single operations -/

/-- A request was sent, and the reply to it has a JSON object as its body. -/
def Replied (answer : Except Failure HttpReply) (step : Step α) : Prop :=
  step.request ≠ none ∧
    ∃ reply fields, answer = .ok reply ∧ Json.ofUtf8? reply.body = some (.object fields)

theorem not_replied_of_no_request {answer : Except Failure HttpReply} {step : Step α}
    (h : step.request = none) : ¬Replied answer step :=
  fun replied => replied.1 h

/-- What a call tells by itself: who the visitor is now, if there was a reply. -/
theorem events_perform (here : Surroundings) (answer : Except Failure HttpReply) (call : Call)
    (c : Client) :
    let step := c.perform here answer call
    (Replied answer step ∧ step.events = [.sharedState step.client.identifiers]) ∨
      (¬Replied answer step ∧ step.events = [] ∧ step.client.identifiers = c.identifiers) := by
  intro step
  rcases perform_cases here answer call c with refused | ⟨_, stranded⟩ | ⟨_, request, sent⟩
  · have unchanged : step.client = c := refused.client
    exact .inr ⟨not_replied_of_no_request refused.request, refused.events, by rw [unchanged]⟩
  · have client_eq : step.client = _ := stranded.client
    refine .inr ⟨not_replied_of_no_request stranded.request, stranded.events, ?_⟩
    rw [client_eq]
    exact Session.identity_reading here c.session
  · have events_eq : step.events = _ := sent.events
    have has_request : step.request ≠ none := by simp [step, sent.request]
    cases readable : Session.readable? answer with
    | some r =>
      have object := Session.isSome_readable?.mp (Option.isSome_of_eq_some readable)
      exact .inl ⟨⟨has_request, object⟩, by simpa [readable] using events_eq⟩
    | none =>
      have not_object : ¬Replied answer step := by
        rintro ⟨-, object⟩
        simpa [readable] using Session.isSome_readable?.mpr object
      have session_eq : step.client.session = (c.session.reading here).session := by
        simpa [Session.learn, readable] using sent.session
      refine .inr ⟨not_object, by simpa [readable] using events_eq, ?_⟩
      rw [identifiers, session_eq]
      exact Session.identity_reading here c.session

theorem events_configure_of_optedOut {configuration : Configuration}
    (optedOut : configuration.privacy = .optedOut) (c : Client) :
    let step := c.configure configuration
    step.events = [.sharedState .unknown] ∧ step.client.identifiers = .unknown := by
  intro step
  have step_eq : step = _ := configure_of_optedOut optedOut c
  have forgotten := Session.identity_forget (c.reconfigured configuration).session
  rw [step_eq]
  exact ⟨by rw [← forgotten]; rfl, forgotten⟩

theorem events_configure_of_not_optedOut {configuration : Configuration}
    (not_optedOut : configuration.privacy ≠ .optedOut) (c : Client) :
    let step := c.configure configuration
    step.events = [] ∧ step.client.identifiers = c.identifiers := by
  intro step
  have step_eq : step = _ := configure_of_not_optedOut not_optedOut c
  rw [step_eq]
  exact ⟨rfl, c.identifiers_reconfigured configuration⟩

/-- A visitor who opted out gets no third-party id. -/
theorem setThirdPartyId_of_hasOptedOut {c : Client} (optedOut : c.HasOptedOut)
    (id : Option String) : c.setThirdPartyId id = { client := c, result := () } :=
  if_pos optedOut

theorem events_setThirdPartyId_of_not {c : Client} (remembered : ¬c.HasOptedOut)
    (id : Option String) :
    let step := c.setThirdPartyId id
    step.events = [.sharedState step.client.identifiers] := by
  intro step
  have step_eq : step = _ := if_neg remembered
  rw [step_eq]

theorem events_reset (c : Client) : c.reset.events = [.sharedState .unknown] := by
  have forgotten : c.reset.client.identifiers = .unknown := Session.identity_forget c.session
  rw [← forgotten]
  rfl

/-- A call that sends no request comes to a failure. -/
theorem result_of_no_request {here : Surroundings} {answer : Except Failure HttpReply} {call : Call}
    {c : Client} (h : (c.perform here answer call).request = none) :
    ∃ failure, (c.perform here answer call).result = .error failure := by
  unfold perform at *
  cases departed : (c.begin here call).request with
  | error failure => exact ⟨failure, by simp only [departed]⟩
  | ok request => simp [departed] at h

/-- A call has something to send, the configuration allows it, and the session that the call finds
or starts has an endpoint. -/
def CanSend (here : Surroundings) (call : Call) (c : Client) : Prop :=
  c.hasToSend here call = true ∧
    ∃ configuration url, c.configuration = some configuration ∧
      configuration.clientCode ≠ "" ∧ configuration.privacy = .optedIn ∧
      Endpoint.url? configuration (c.session.reading here).session.edgeHost
        (c.session.reading here).session.id = some url

theorem request_ne_none_iff (here : Surroundings) (answer : Except Failure HttpReply) (call : Call)
    (c : Client) : (c.perform here answer call).request ≠ none ↔ c.CanSend here call := by
  constructor
  · intro has_request
    rcases perform_cases here answer call c with refused | ⟨_, stranded⟩ |
      ⟨configuration, request, sent⟩
    · exact absurd refused.request has_request
    · exact absurd stranded.request has_request
    · obtain ⟨in_effect, has_code, opted_in⟩ := Configuration.forRequests_eq_ok.mp sent.allowed
      have has_to_send := sent.attempted
      rw [attempts, Bool.and_eq_true] at has_to_send
      exact ⟨has_to_send.2, configuration, request.url, in_effect, has_code, opted_in,
        sent.endpoint⟩
  · rintro ⟨has_to_send, configuration, url, in_effect, has_code, opted_in, endpoint⟩
    have allowed := Configuration.forRequests_eq_ok.mpr ⟨in_effect, has_code, opted_in⟩
    rcases perform_cases here answer call c with refused | ⟨other, stranded⟩ | ⟨_, _, sent⟩
    · have not_attempted := refused.not_attempted
      simp [attempts, allowed, has_to_send, Except.isOk, Except.toBool] at not_attempted
    · obtain rfl : configuration = other :=
        Except.ok.inj (allowed.symm.trans stranded.allowed)
      cases endpoint.symm.trans stranded.endpoint
    · rw [sent.request]
      exact Option.some_ne_none _

/-- **The outcome of an operation is published once.** In whatever state a client is, and whatever
the transport would answer. A call ends in one response, with the result that a direct call would
be given; before that, the host is told who the visitor is now exactly if there was a reply that
can be read, also one that reports an error. It sends its one request exactly if the configuration
allows requests, there is something to send and an endpoint to send it to; otherwise it fails. A
reset tells that the visitor is unknown, and so does a configuration of one who opted out; other
configurations tell nothing. Another third-party id is told at once, unless the visitor opted out.
Asking for the identity is answered and changes nothing. -/
theorem publishes (here : Surroundings) (answer : Except Failure HttpReply) (operation : Operation)
    (c : Client) :
    let step := c.handle here answer operation
    match operation with
    | .call call =>
      ∃ result told, result = (c.perform here answer call).result ∧
        step.result = result.map (fun _ => ()) ∧
        step.events = told ++ [.response call.kind result] ∧
        (Replied answer step → told = [.sharedState step.client.identifiers]) ∧
        (¬Replied answer step → told = []) ∧
        (step.request ≠ none ↔ c.CanSend here call) ∧
        (step.request = none → ∃ failure, result = .error failure)
    | .reset =>
      step.result = .ok () ∧ step.request = none ∧ step.events = [.sharedState .unknown]
    | .setThirdPartyId _ =>
      step.result = .ok () ∧ step.request = none ∧
        (c.HasOptedOut → step.events = []) ∧
        (¬c.HasOptedOut → step.events = [.sharedState step.client.identifiers])
    | .getIdentifiers =>
      step.result = .ok () ∧ step.request = none ∧
        step.events = [.identityResponse c.identifiers] ∧ step.client = c ∧ step.writes = []
    | .configure configuration =>
      step.result = .ok () ∧ step.request = none ∧
        (configuration.privacy = .optedOut → step.events = [.sharedState .unknown]) ∧
        (configuration.privacy ≠ .optedOut → step.events = []) := by
  intro step
  cases operation with
  | call call =>
    refine ⟨(c.perform here answer call).result, (c.perform here answer call).events, rfl, rfl,
      rfl, ?_, ?_, request_ne_none_iff here answer call c, result_of_no_request⟩
    · intro replied
      rcases c.events_perform here answer call with ⟨-, told⟩ | ⟨not_replied, -⟩
      · exact told
      · exact absurd replied not_replied
    · intro not_replied
      rcases c.events_perform here answer call with ⟨replied, -⟩ | ⟨-, told, -⟩
      · exact absurd replied not_replied
      · exact told
  | reset => exact ⟨rfl, rfl, c.events_reset⟩
  | setThirdPartyId id =>
    refine ⟨rfl, c.request_setThirdPartyId id, ?_, ?_⟩
    · intro optedOut
      exact congrArg (·.events) (setThirdPartyId_of_hasOptedOut optedOut id)
    · intro remembered
      exact events_setThirdPartyId_of_not remembered id
  | getIdentifiers => exact ⟨rfl, rfl, rfl, rfl, rfl⟩
  | configure configuration =>
    refine ⟨rfl, c.request_configure configuration, ?_, ?_⟩
    · intro optedOut
      exact (c.events_configure_of_optedOut optedOut).1
    · intro not_optedOut
      exact (c.events_configure_of_not_optedOut not_optedOut).1

end Client

/-! ## Steps and laps -/

/-- A step shares, once, who the visitor is now, or it shares nothing and the visitor is who it was
before. -/
def Step.Shares (before : IdentityState) (step : Step α) : Prop :=
  step.events.filterMap Event.shared? = [step.client.identifiers] ∨
    (step.events.filterMap Event.shared? = [] ∧ step.client.identifiers = before)

namespace Step.Shares

variable {before : IdentityState} {step : Step α}

theorem mem_of_changed (shares : step.Shares before) (changed : step.client.identifiers ≠ before) :
    .sharedState step.client.identifiers ∈ step.events := by
  rw [← Event.mem_filterMap_shared?]
  rcases shares with told | ⟨-, same⟩
  · simp [told]
  · exact absurd same changed

theorem eq_of_mem (shares : step.Shares before) {visitor : IdentityState}
    (among : .sharedState visitor ∈ step.events) : visitor = step.client.identifiers := by
  rw [← Event.mem_filterMap_shared?] at among
  rcases shares with told | ⟨none_told, -⟩
  · simpa [told] using among
  · simp [none_told] at among

/-- If what was shared last was true before a step, or nothing was shared, so it is after it. -/
theorem getD_getLast?_append (shares : step.Shares before) {loaded : IdentityState}
    {told : List IdentityState} (current : before = told.getLast?.getD loaded) :
    step.client.identifiers =
      (told ++ step.events.filterMap Event.shared?).getLast?.getD loaded := by
  rcases shares with now | ⟨nothing, same⟩
  · simp [now]
  · rw [nothing, List.append_nil, same, current]

end Step.Shares

/-- The call that a lap hands over, with what it comes to. -/
def Lap.response? (l : Lap) : Option (CallKind × Except Failure ContentMap) :=
  match l.moment.operation with
  | .call call =>
    if l.moment.direct then none
    else some (call.kind, (l.before.perform l.moment.here l.moment.answer call).result)
  | .reset | .setThirdPartyId _ | .getIdentifiers | .configure _ => none

namespace Client

/-- What is called directly tells its outcome to its caller only. -/
theorem events_act (m : Moment) (c : Client) :
    (c.act m).events =
      match m.operation with
      | .call call =>
        let step := c.perform m.here m.answer call
        step.events ++ if m.direct then [] else [.response call.kind step.result]
      | .reset => c.reset.events
      | .setThirdPartyId id => (c.setThirdPartyId id).events
      | .getIdentifiers => if m.direct then [] else [.identityResponse c.identifiers]
      | .configure configuration => (c.configure configuration).events := by
  unfold act
  split
  · cases m.operation <;> simp [direct]
  · cases m.operation <;> rfl

theorem shares_configure (configuration : Configuration) (c : Client) :
    (c.configure configuration).Shares c.identifiers := by
  by_cases optedOut : configuration.privacy = .optedOut
  · obtain ⟨told, unknown⟩ := c.events_configure_of_optedOut optedOut
    left
    rw [told, unknown]
    rfl
  · obtain ⟨told, same⟩ := c.events_configure_of_not_optedOut optedOut
    right
    rw [told]
    exact ⟨rfl, same⟩

end Client

namespace Lap

theorem responses_eq (l : Lap) :
    l.step.events.filterMap Event.response? = l.response?.toList := by
  unfold step response?
  rw [Client.events_act]
  cases l.moment.operation with
  | call call =>
    have told : (l.before.perform l.moment.here l.moment.answer call).events.filterMap
        Event.response? = [] := by
      rcases l.before.events_perform l.moment.here l.moment.answer call with ⟨-, told⟩ |
        ⟨-, told, -⟩ <;> simp [told, Event.response?]
    cases l.moment.direct <;> simp [told, Event.response?]
  | reset => simp [l.before.events_reset, Event.response?]
  | setThirdPartyId id =>
    by_cases optedOut : l.before.HasOptedOut
    · simp [Client.setThirdPartyId_of_hasOptedOut optedOut]
    · simp [Client.events_setThirdPartyId_of_not optedOut, Event.response?]
  | getIdentifiers => cases l.moment.direct <;> simp [Event.response?]
  | configure configuration =>
    by_cases optedOut : configuration.privacy = .optedOut
    · simp [(l.before.events_configure_of_optedOut optedOut).1, Event.response?]
    · simp [(l.before.events_configure_of_not_optedOut optedOut).1]

/-- Whatever changes the identity shares the new one. -/
theorem shares (l : Lap) : l.step.Shares l.before.identifiers := by
  unfold Step.Shares step
  rw [Client.client_act, Client.events_act]
  cases l.moment.operation with
  | call call =>
    have client_eq : (l.before.handle l.moment.here l.moment.answer (.call call)).client =
      (l.before.perform l.moment.here l.moment.answer call).client := rfl
    rw [client_eq]
    rcases l.before.events_perform l.moment.here l.moment.answer call with ⟨-, told⟩ |
      ⟨-, told, same⟩
    · left
      cases l.moment.direct <;> simp [told, List.filterMap_cons, Event.shared?]
    · right
      cases l.moment.direct <;> simp [told, same, Event.shared?]
  | reset => exact .inl rfl
  | setThirdPartyId id =>
    by_cases optedOut : l.before.HasOptedOut
    · right
      simp [Client.handle, Client.setThirdPartyId_of_hasOptedOut optedOut]
    · left
      simp [Client.handle, Client.events_setThirdPartyId_of_not optedOut, Event.shared?]
  | getIdentifiers =>
    right
    cases l.moment.direct <;> exact ⟨rfl, rfl⟩
  | configure configuration => exact Client.shares_configure configuration l.before

end Lap

/-! ## Runs -/

namespace Client

theorem responses_start (store : KeyValueStore σ) (s : σ) (configuration : Option Configuration) :
    (start store s configuration).events.filterMap Event.response? = [] := by
  cases configuration with
  | none => rfl
  | some configuration =>
    by_cases optedOut : configuration.privacy = .optedOut
    · simp [start, (events_configure_of_optedOut optedOut _).1, Event.response?]
    · simp [start, (events_configure_of_not_optedOut optedOut _).1]

theorem shares_start (store : KeyValueStore σ) (s : σ) (configuration : Option Configuration) :
    (start store s configuration).Shares (Session.load store s).identity := by
  cases configuration with
  | none => exact .inr ⟨rfl, rfl⟩
  | some configuration => exact shares_configure configuration { session := Session.load store s }

end Client

namespace Run

/-- All events, in their order. -/
def events (r : Run σ) : List Event := r.start.events ++ r.laps.flatMap fun l => l.step.events

theorem events_next (m : Moment) (r : Run σ) :
    (r.next m).events = r.events ++ (r.lap m).step.events := by
  have same_start : (r.next m).start = r.start := rfl
  simp [events, same_start]

/-- The responses are those to the calls that were handed over, each once and in their order. -/
theorem responses_eq (r : Run σ) :
    r.events.filterMap Event.response? = r.laps.filterMap Lap.response? := by
  induction r using Run.induction with
  | start store contents configuration =>
    have none_yet := Client.responses_start store contents configuration
    simpa [events, laps, Client.laps, start] using none_yet
  | next r m ih =>
    rw [events_next, laps_next, List.filterMap_append, List.filterMap_append, ih,
      Lap.responses_eq]
    cases responded : (r.lap m).response? <;> simp [responded]

/-- What was shared last is true, and if nothing was, the visitor is the one who was loaded. -/
theorem identifiers_eq (r : Run σ) :
    r.client.identifiers =
      (r.events.filterMap Event.shared?).getLast?.getD
        (Session.load r.store r.contents).identity := by
  induction r using Run.induction with
  | start store contents configuration =>
    have shares := Client.shares_start store contents configuration
    have events_eq : ({ store, contents, configuration } : Run σ).events =
      (Client.start store contents configuration).events := List.append_nil _
    have nothing_yet : (Session.load store contents).identity =
        ([] : List IdentityState).getLast?.getD (Session.load store contents).identity := rfl
    rw [events_eq]
    exact shares.getD_getLast?_append nothing_yet
  | next r m ih =>
    have shares : (r.client.act m).Shares r.client.identifiers := (r.lap m).shares
    rw [client_next, events_next, List.filterMap_append]
    exact shares.getD_getLast?_append ih

/-- **What the host knows of the visitor is never stale.** After every operation of every run,
handed over or called directly and whatever the transport answers, what was shared last is who the
visitor is, and as long as nothing was shared, the visitor is the one whom the store knew. For that,
each operation that changes who the visitor is, and already the start if it does, shares the new
identity itself, also if it comes to a failure, and none shares another identity than the one it
leaves. -/
theorem shared_state_current (r : Run σ) :
    let loaded := (Session.load r.store r.contents).identity
    r.client.identifiers = (r.events.filterMap Event.shared?).getLast?.getD loaded ∧
    (r.start.client.identifiers ≠ loaded →
      .sharedState r.start.client.identifiers ∈ r.start.events) ∧
    (∀ l ∈ r.laps, l.step.client.identifiers ≠ l.before.identifiers →
      .sharedState l.step.client.identifiers ∈ l.step.events) ∧
    (∀ l ∈ r.laps, ∀ visitor, .sharedState visitor ∈ l.step.events →
      visitor = l.step.client.identifiers) := by
  have shares_start : r.start.Shares (Session.load r.store r.contents).identity :=
    Client.shares_start r.store r.contents r.configuration
  refine ⟨r.identifiers_eq, shares_start.mem_of_changed, ?_, ?_⟩
  · intro l _ changed
    exact l.shares.mem_of_changed changed
  · intro l _ visitor among
    exact l.shares.eq_of_mem among

/-- A reply that reports an error and gives the visitor an id: the call fails, and the id is shared
in the same step. -/
theorem shared_state_current_after_error :
    let acme : Configuration := { clientCode := "acme", privacy := .optedIn }
    let call : Call := .execute [{ name := "box" }] none
    let body := "\x7b\"id\":\x7b\"tntId\":\"visitor\"\x7d,\"message\":\"busy\"\x7d"
    let m : Moment :=
      { here :=
          { millis := 5000, utcOffset := 0, freshSessionId := "session"
            freshNotificationId := fun _ => "report", facts := {} }
        answer := .ok { status := 503, body := body.toUTF8 }
        operation := .call call, direct := true }
    let r : Run Storage := { store := .memory, contents := ∅, configuration := some acme }
    r.client.identifiers = .unknown ∧
      (r.client.perform m.here m.answer call).result.isOk = false ∧
      ∃ l ∈ (r.next m).laps,
        .sharedState { tntId := some "visitor", thirdPartyId := none } ∈ l.step.events := by
  intro acme call body m r
  obtain ⟨-, -, told, -⟩ := shared_state_current (r.next m)
  have among : r.lap m ∈ (r.next m).laps := by simp
  have given : (r.lap m).step.client.identifiers =
      { tntId := some "visitor", thirdPartyId := none } := by decide +kernel
  have changed : (r.lap m).step.client.identifiers ≠ (r.lap m).before.identifiers := by
    rw [given]
    decide +kernel
  have shared := told _ among changed
  rw [given] at shared
  exact ⟨by decide +kernel, by decide +kernel, r.lap m, among, shared⟩

end Run

end ContentDelivery
