/-
ContentDelivery.Proofs.Client.Operations — what an operation can do.

A call comes out in one of three ways (`perform_cases`).

* It is `Refused`: the client stays exactly as it was, no report was
  added to the pending ones, nothing is written.
* It is `Stranded`: the session was read, and there is no valid endpoint.
  The reads count, the reports of the call are pending.
* It is `Sent`: the request takes all pending reports along, and the
  session learns from the answer.

There is no fourth way. In particular a payload is always assembled once
the pending reports were taken out: the check on an empty payload is
made before that, on the same reports (`assemble_of_nonempty`).

Of the other operations, `forgets` tells those that forget the visitor.
Everything else about operations is derived from the lemmas here, so that
no other proof opens `begin`, `dispatch` or `configure`.
-/
import ContentDelivery.Proofs.Client.Run

namespace ContentDelivery

/-! ## The parts of a call -/

namespace Call

/-- The mboxes that a call asks for; a report asks for none. -/
def selection : Call → MboxSelection
  | prefetch mboxes _ => .prefetch mboxes
  | execute mboxes _ => .execute mboxes
  | displayed _ _ | clicked _ _ => .none

def parameters : Call → Option Parameters
  | prefetch _ ps | execute _ ps | displayed _ ps | clicked _ ps => ps

end Call

namespace Client

/-- The reports that a call adds to the pending ones, if it is allowed at all. -/
def reports (here : Surroundings) (call : Call) (c : Client) : List Notification :=
  match Configuration.forRequests c.configuration with
  | .error _ => []
  | .ok _ =>
    match call with
    | .prefetch _ _ | .execute _ _ => []
    | .displayed names ps =>
      displays here (here.facts.notificationParameters ps) (displayable names c.cache)
    | .clicked name ps =>
      ((c.cache.find? name).bind (Notification.click? (here.freshNotificationId 0) here.millis
        (here.facts.notificationParameters ps) name)).toList

/-- Whether a call has something to send: mboxes or reports. A click needs a report of its own, the
other calls are content with pending ones. -/
def hasToSend (here : Surroundings) (call : Call) (c : Client) : Bool :=
  match call with
  | .prefetch mboxes _ | .execute mboxes _ => !(mboxes.isEmpty && c.pending.isEmpty)
  | .displayed _ _ => !(c.pending ++ c.reports here call).isEmpty
  | .clicked _ _ => !(c.reports here call).isEmpty

/-- Whether a call gets as far as reading the session: it is allowed and has something to send. -/
def attempts (here : Surroundings) (call : Call) (c : Client) : Bool :=
  (Configuration.forRequests c.configuration).isOk && c.hasToSend here call

/-- Why a call that is no attempt is refused: the configuration does not allow it, or it has nothing
to send. A click on content that is not held is told apart. -/
def refusal (call : Call) (c : Client) : Failure :=
  match Configuration.forRequests c.configuration with
  | .error failure => failure
  | .ok _ =>
    match call with
    | .prefetch _ _ | .execute _ _ | .displayed _ _ => .emptyRequest
    | .clicked name _ => if (c.cache.find? name).isNone then .mboxNotCached name else .emptyRequest

end Client

namespace Session

/-- A session read for a request: its edge host first, then its id. -/
def reading (here : Surroundings) (s : Session) : Change :=
  (s.readEdgeHost here.seconds).andThen (readId here.seconds here.freshSessionId)

theorem readEdgeHost_andThen_readId (here : Surroundings) (s : Session) :
    (s.readEdgeHost here.seconds).andThen (readId here.seconds here.freshSessionId) =
      s.reading here := rfl

/-- The reply in an answer, if it can be read. -/
def readable? (answer : Except Failure HttpReply) : Option DeliveryReply :=
  answer.toOption.bind DeliveryReply.ofHttp?

/-- What a session takes from an answer: nothing, unless there is a reply that can be read. -/
def learn (now : Int64) (answer : Except Failure HttpReply) (s : Session) : Change :=
  match readable? answer with
  | none => s.unchanged
  | some r => s.absorb now r

end Session

namespace DeliveryReply

/-- The reply in an answer that is a success: its status is 200, and its body is a JSON object
without a message. -/
def success? (answer : Except Failure HttpReply) : Option DeliveryReply :=
  match answer with
  | .error _ => none
  | .ok reply =>
    match Json.ofUtf8? reply.body with
    | some (.object fields) =>
      let body : Json.Fields := fields
      match body.get? "message" with
      | some (.string _) => none
      | _ => if reply.status = 200 then some { status := reply.status, body } else none
    | _ => none

theorem failure?_eq_none {r : DeliveryReply} :
    r.failure? = none ↔ r.status = 200 ∧ r.message? = none := by
  cases told : r.message? <;> simp [failure?, statusOk, told]

/-- A success is a reply that can be read and reports no error. -/
theorem success?_eq (answer : Except Failure HttpReply) :
    success? answer = (Session.readable? answer).filter fun r => r.failure? = none := by
  cases answer with
  | error failure => rfl
  | ok reply =>
    unfold success? Session.readable? ofHttp?
    dsimp only [Except.toOption, Option.bind_some]
    cases Json.ofUtf8? reply.body with
    | none => rfl
    | some value =>
      cases value with
      | object body =>
        simp only [Option.bind_some, Json.asObject?, Option.map_some, Option.filter_some,
          failure?_eq_none, message?]
        cases Json.Fields.get? body "message" with
        | none => simp
        | some message => cases message <;> simp [Json.asString?]
      | null | bool _ | number _ | string _ | array _ => rfl

end DeliveryReply

/-- What a cache takes from an answer: the content for the call, if there is a reply without an
error. -/
def Cache.learn (kind : CallKind) (answer : Except Failure HttpReply) (c : Cache) : Cache :=
  match DeliveryReply.success? answer with
  | none => c
  | some r => c.keep kind (r.content kind)

/-- What a call comes to by the answer to its request, whatever the client holds. -/
def CallKind.outcome (kind : CallKind) (answer : Except Failure HttpReply) :
    Except Failure ContentMap :=
  match answer with
  | .error failure => .error failure
  | .ok reply =>
    match DeliveryReply.ofHttp? reply with
    | none => .error .malformedReply
    | some r =>
      match r.failure? with
      | some failure => .error failure
      | none => .ok (r.content kind)

/-! ## Payloads and answers -/

namespace DeliveryRequest

/-- A payload is assembled whenever there is anything to send, and takes all reports along. -/
theorem assemble_of_nonempty (facts : HostFacts) (utcOffset : Int32) (configuration : Configuration)
    (visitor : IdentityState) {selection : MboxSelection} (ofCall : Option Parameters)
    {notifications : List Notification}
    (something : (selection.isEmpty && notifications.isEmpty) = false) :
    ∃ payload, assemble facts utcOffset configuration visitor selection ofCall notifications =
        .ok payload ∧
      payload.notifications = notifications := by
  unfold assemble
  rw [something]
  exact ⟨_, rfl, rfl⟩

theorem notifications_of_assemble {facts : HostFacts} {utcOffset : Int32}
    {configuration : Configuration} {visitor : IdentityState} {selection : MboxSelection}
    {ofCall : Option Parameters} {notifications : List Notification} {payload : DeliveryRequest}
    (assembled : assemble facts utcOffset configuration visitor selection ofCall notifications =
      .ok payload) :
    payload.notifications = notifications := by
  unfold assemble at assembled
  split at assembled
  · cases assembled
  · cases assembled
    rfl

end DeliveryRequest

namespace Client

@[simp] theorem pending_conclude (here : Surroundings) (kind : CallKind)
    (answer : Except Failure HttpReply) (c : Client) :
    (c.conclude here kind answer).client.pending = c.pending := by
  cases answer <;> rfl

@[simp] theorem configuration_conclude (here : Surroundings) (kind : CallKind)
    (answer : Except Failure HttpReply) (c : Client) :
    (c.conclude here kind answer).client.configuration = c.configuration := by
  cases answer <;> rfl

/-- An answer reaches the session and the store in one and the same change. -/
theorem conclude_eq_learn (here : Surroundings) (kind : CallKind)
    (answer : Except Failure HttpReply) (c : Client) :
    let step := c.conclude here kind answer
    step.client.session = (c.session.learn here.seconds answer).session ∧
      step.writes = (c.session.learn here.seconds answer).writes := by
  cases answer with
  | error failure => exact ⟨rfl, rfl⟩
  | ok reply =>
    cases readable : DeliveryReply.ofHttp? reply with
    | none =>
      simp [conclude, reconcile, Session.learn, Session.readable?, Except.toOption, readable]
    | some r =>
      cases failed : r.failure? <;>
        simp [conclude, reconcile, Session.learn, Session.readable?, Except.toOption, readable,
          failed]

theorem result_conclude (here : Surroundings) (kind : CallKind)
    (answer : Except Failure HttpReply) (c : Client) :
    (c.conclude here kind answer).result = kind.outcome answer := by
  cases answer with
  | error failure => rfl
  | ok reply =>
    cases readable : DeliveryReply.ofHttp? reply with
    | none => simp [conclude, reconcile, CallKind.outcome, readable]
    | some r =>
      cases failed : r.failure? <;>
        simp [conclude, reconcile, CallKind.outcome, readable, failed]

/-- Content is taken from replies without an error only. -/
theorem cache_conclude (here : Surroundings) (kind : CallKind)
    (answer : Except Failure HttpReply) (c : Client) :
    (c.conclude here kind answer).client.cache = c.cache.learn kind answer := by
  cases answer with
  | error failure => rfl
  | ok reply =>
    cases readable : DeliveryReply.ofHttp? reply with
    | none =>
      simp [conclude, reconcile, Cache.learn, DeliveryReply.success?_eq, Session.readable?,
        Except.toOption, readable]
    | some r =>
      have success : DeliveryReply.success? (.ok reply) =
          if r.failure? = none then some r else none := by
        simp [DeliveryReply.success?_eq, Session.readable?, Except.toOption, readable,
          Option.filter]
      cases failed : r.failure? with
      | none => simp [conclude, reconcile, Cache.learn, readable, failed, success]
      | some failure => simp [conclude, reconcile, Cache.learn, readable, failed, success]

/-- The host is told who the visitor is after every reply that can be read, with an error or
without. -/
theorem events_conclude (here : Surroundings) (kind : CallKind)
    (answer : Except Failure HttpReply) (c : Client) :
    (c.conclude here kind answer).events =
      if (Session.readable? answer).isSome then
        [.sharedState (c.conclude here kind answer).client.identifiers]
      else [] := by
  cases answer with
  | error failure => rfl
  | ok reply =>
    cases readable : DeliveryReply.ofHttp? reply with
    | none => simp [conclude, reconcile, Session.readable?, Except.toOption, readable]
    | some r =>
      cases failed : r.failure? with
      | none =>
        simp [conclude, reconcile, Session.readable?, Except.toOption, readable, failed,
          identifiers]
      | some failure =>
        have reported : failure ≠ .malformedReply := by
          rintro rfl
          simp [DeliveryReply.failure?] at failed
        simp [conclude, reconcile, Session.readable?, Except.toOption, readable, failed,
          identifiers, reported]

/-! ## Up to the request -/

theorem reports_of_refusal {here : Surroundings} {call : Call} {c : Client} {failure : Failure}
    (refusal : Configuration.forRequests c.configuration = .error failure) :
    c.reports here call = [] := by
  simp [reports, refusal]

theorem not_attempts_of_refusal {c : Client} {failure : Failure}
    (refusal : Configuration.forRequests c.configuration = .error failure) (here : Surroundings)
    (call : Call) : c.attempts here call = false := by
  simp [attempts, refusal, Except.isOk, Except.toBool]

theorem refusal_eq_of_refusal {c : Client} {failure : Failure}
    (refusal : Configuration.forRequests c.configuration = .error failure) (call : Call) :
    c.refusal call = failure := by
  simp [Client.refusal, refusal]

theorem dispatch_of_refusal {here : Surroundings} {selection : MboxSelection}
    {parameters : Option Parameters} {c : Client} {failure : Failure}
    (refusal : Configuration.forRequests c.configuration = .error failure) :
    c.dispatch here selection parameters = { client := c, request := .error failure } := by
  simp [dispatch, refusal]

theorem dispatch_of_nothing {here : Surroundings} {selection : MboxSelection}
    {parameters : Option Parameters} {c : Client} {configuration : Configuration}
    (allowed : Configuration.forRequests c.configuration = .ok configuration)
    (nothing : (selection.isEmpty && c.pending.isEmpty) = true) :
    c.dispatch here selection parameters = { client := c, request := .error .emptyRequest } := by
  simp [dispatch, allowed, nothing]

/-- What is allowed and has something to send is sent, unless there is no endpoint. -/
theorem dispatch_of_allowed (here : Surroundings) {selection : MboxSelection}
    (parameters : Option Parameters) {c : Client} {configuration : Configuration}
    (allowed : Configuration.forRequests c.configuration = .ok configuration)
    (something : (selection.isEmpty && c.pending.isEmpty) = false) :
    (Endpoint.url? configuration (c.session.reading here).session.edgeHost
        (c.session.reading here).session.id = none ∧
      c.dispatch here selection parameters =
        { client := { c with session := (c.session.reading here).session }
          request := .error .invalidUrl
          writes := (c.session.reading here).writes }) ∨
    ∃ request : HttpRequest,
      Endpoint.url? configuration (c.session.reading here).session.edgeHost
        (c.session.reading here).session.id = some request.url ∧
      DeliveryRequest.assemble here.facts here.utcOffset configuration c.session.identity selection
        parameters c.pending = .ok request.payload ∧
      request.timeout = configuration.networkTimeout ∧
      c.dispatch here selection parameters =
        { client := { c with session := (c.session.reading here).session, pending := [] }
          request := .ok request
          writes := (c.session.reading here).writes } := by
  cases endpoint : Endpoint.url? configuration (c.session.reading here).session.edgeHost
      (c.session.reading here).session.id with
  | none =>
    refine .inl ⟨rfl, ?_⟩
    simp only [dispatch, allowed, something, Bool.false_eq_true, if_false,
      Session.readEdgeHost_andThen_readId, endpoint]
  | some url =>
    obtain ⟨payload, assembled, -⟩ := DeliveryRequest.assemble_of_nonempty here.facts
      here.utcOffset configuration c.session.identity parameters something
    refine .inr ⟨{ url, payload, timeout := configuration.networkTimeout }, rfl, assembled, rfl, ?_⟩
    simp only [dispatch, allowed, something, Bool.false_eq_true, if_false,
      Session.readEdgeHost_andThen_readId, endpoint, assembled, Except.map]

/-- A call is refused, or is an attempt, which comes down to sending its mboxes with its reports
pending. -/
theorem begin_cases (here : Surroundings) (call : Call) (c : Client) :
    (c.attempts here call = false ∧ c.reports here call = [] ∧
      c.begin here call = { client := c, request := .error (c.refusal call) }) ∨
    c.attempts here call = true ∧
    ∃ configuration, Configuration.forRequests c.configuration = .ok configuration ∧
      (call.selection.isEmpty && (c.pending ++ c.reports here call).isEmpty) = false ∧
      c.begin here call =
        { c with pending := c.pending ++ c.reports here call }.dispatch here call.selection
          call.parameters := by
  cases checked : Configuration.forRequests c.configuration with
  | error failure =>
    refine .inl ⟨not_attempts_of_refusal checked here call, reports_of_refusal checked, ?_⟩
    rw [refusal_eq_of_refusal checked]
    cases call with
    | prefetch mboxes ps => simp only [begin, dispatch_of_refusal checked]
    | execute mboxes ps => simp only [begin, dispatch_of_refusal checked]
    | displayed names ps => simp [begin, beginDisplayed, checked]
    | clicked name ps => simp [begin, beginClicked, checked]
  | ok configuration =>
    have attempts_eq : c.attempts here call = c.hasToSend here call := by
      simp [attempts, checked, Except.isOk, Except.toBool]
    rw [attempts_eq]
    cases call with
    | prefetch mboxes ps =>
      have no_reports : c.reports here (.prefetch mboxes ps) = [] := by simp [reports, checked]
      have why : c.refusal (.prefetch mboxes ps) = .emptyRequest := by simp [refusal, checked]
      rw [no_reports, List.append_nil, why]
      unfold begin hasToSend
      cases empty : (Call.prefetch mboxes ps).selection.isEmpty && c.pending.isEmpty with
      | true =>
        exact .inl ⟨congrArg not empty, rfl, dispatch_of_nothing checked empty⟩
      | false => exact .inr ⟨congrArg not empty, configuration, rfl, rfl, rfl⟩
    | execute mboxes ps =>
      have no_reports : c.reports here (.execute mboxes ps) = [] := by simp [reports, checked]
      have why : c.refusal (.execute mboxes ps) = .emptyRequest := by simp [refusal, checked]
      rw [no_reports, List.append_nil, why]
      unfold begin hasToSend
      cases empty : (Call.execute mboxes ps).selection.isEmpty && c.pending.isEmpty with
      | true =>
        exact .inl ⟨congrArg not empty, rfl, dispatch_of_nothing checked empty⟩
      | false => exact .inr ⟨congrArg not empty, configuration, rfl, rfl, rfl⟩
    | displayed names ps =>
      have made : c.reports here (.displayed names ps) =
          displays here (here.facts.notificationParameters ps) (displayable names c.cache) := by
        simp [reports, checked]
      cases empty : (c.pending ++ c.reports here (.displayed names ps)).isEmpty with
      | true =>
        have none_made := (List.append_eq_nil_iff.mp (List.isEmpty_iff.mp empty)).2
        refine .inl ⟨congrArg not empty, none_made, ?_⟩
        rw [made] at empty
        simp only [begin, beginDisplayed, refusal, checked, empty, if_true]
      | false =>
        refine .inr ⟨congrArg not empty, configuration, rfl, by simp, ?_⟩
        rw [made] at empty ⊢
        simp only [begin, beginDisplayed, checked, empty, Bool.false_eq_true, if_false,
          Call.selection, Call.parameters]
    | clicked name ps =>
      cases found : c.cache.find? name with
      | none =>
        have no_report : c.reports here (.clicked name ps) = [] := by
          simp [reports, checked, found]
        refine .inl ⟨by simp [hasToSend, no_report], no_report, ?_⟩
        simp only [begin, beginClicked, refusal, checked, found, Option.isNone_none, if_true]
      | some content =>
        cases made : Notification.click? (here.freshNotificationId 0) here.millis
            (here.facts.notificationParameters ps) name content with
        | none =>
          have no_report : c.reports here (.clicked name ps) = [] := by
            simp [reports, checked, found, made]
          refine .inl ⟨by simp [hasToSend, no_report], no_report, ?_⟩
          simp only [begin, beginClicked, refusal, checked, found, made, Option.isNone_some,
            Bool.false_eq_true, if_false]
        | some report =>
          have one_report : c.reports here (.clicked name ps) = [report] := by
            simp [reports, checked, found, made]
          refine .inr
            ⟨by simp [hasToSend, one_report], configuration, rfl, by simp [one_report], ?_⟩
          rw [one_report]
          simp only [begin, beginClicked, checked, found, made, Call.selection, Call.parameters]

/-- A call that makes no request has no endpoint, or leaves the client as it was. -/
theorem begin_of_failure {here : Surroundings} {call : Call} {c : Client} {failure : Failure}
    (h : (c.begin here call).request = .error failure) :
    failure = .invalidUrl ∨ (c.begin here call).client = c := by
  rcases begin_cases here call c with ⟨-, -, refused⟩ |
    ⟨-, configuration, allowed, something, begun⟩
  · rw [refused]
    exact .inr rfl
  · rcases dispatch_of_allowed here call.parameters
        (c := { c with pending := c.pending ++ c.reports here call }) allowed something with
      ⟨-, stranded⟩ | ⟨request, -, -, -, sent⟩
    · rw [begun, stranded] at h
      exact .inl (Except.error.inj h).symm
    · rw [begun, sent] at h
      cases h

/-! ## The three ways -/

structure Refused (here : Surroundings) (call : Call) (c : Client)
    (step : Step (Except Failure ContentMap)) : Prop where
  not_attempted : c.attempts here call = false
  client : step.client = c
  request : step.request = none
  events : step.events = []
  writes : step.writes = []
  reports : c.reports here call = []

structure Stranded (here : Surroundings) (call : Call) (c : Client) (configuration : Configuration)
    (step : Step (Except Failure ContentMap)) : Prop where
  attempted : c.attempts here call = true
  allowed : Configuration.forRequests c.configuration = .ok configuration
  endpoint : Endpoint.url? configuration (c.session.reading here).session.edgeHost
    (c.session.reading here).session.id = none
  client : step.client =
    { c with
      session := (c.session.reading here).session
      pending := c.pending ++ c.reports here call }
  result : step.result = .error .invalidUrl
  request : step.request = none
  events : step.events = []
  writes : step.writes = (c.session.reading here).writes

structure Sent (here : Surroundings) (answer : Except Failure HttpReply) (call : Call) (c : Client)
    (configuration : Configuration) (request : HttpRequest)
    (step : Step (Except Failure ContentMap)) : Prop where
  attempted : c.attempts here call = true
  allowed : Configuration.forRequests c.configuration = .ok configuration
  endpoint : Endpoint.url? configuration (c.session.reading here).session.edgeHost
    (c.session.reading here).session.id = some request.url
  payload : DeliveryRequest.assemble here.facts here.utcOffset configuration c.session.identity
    call.selection call.parameters (c.pending ++ c.reports here call) = .ok request.payload
  timeout : request.timeout = configuration.networkTimeout
  request : step.request = some request
  session : step.client.session =
    ((c.session.reading here).andThen (Session.learn here.seconds answer)).session
  writes : step.writes =
    ((c.session.reading here).andThen (Session.learn here.seconds answer)).writes
  events : step.events =
    if (Session.readable? answer).isSome then [.sharedState step.client.identifiers] else []
  cache : step.client.cache = c.cache.learn call.kind answer
  pending : step.client.pending = []
  configuration_eq : step.client.configuration = c.configuration

/-- **A call is refused, stranded or sent.** -/
theorem perform_cases (here : Surroundings) (answer : Except Failure HttpReply) (call : Call)
    (c : Client) :
    Refused here call c (c.perform here answer call) ∨
    (∃ configuration, Stranded here call c configuration (c.perform here answer call)) ∨
    ∃ configuration request,
      Sent here answer call c configuration request (c.perform here answer call) := by
  rcases begin_cases here call c with ⟨not_attempted, no_reports, refused⟩ |
    ⟨attempted, configuration, allowed, something, begun⟩
  · left
    constructor <;> simp [perform, refused, no_reports, not_attempted]
  · right
    rcases dispatch_of_allowed here call.parameters
        (c := { c with pending := c.pending ++ c.reports here call }) allowed something with
      ⟨endpoint, stranded⟩ | ⟨request, endpoint, payload, timeout, sent⟩
    · left
      refine ⟨configuration, ?_⟩
      rw [stranded] at begun
      exact {
        attempted, allowed, endpoint
        client := by simp [perform, begun]
        result := by simp [perform, begun]
        request := by simp [perform, begun]
        events := by simp [perform, begun]
        writes := by simp [perform, begun] }
    · right
      refine ⟨configuration, request, ?_⟩
      rw [sent] at begun
      have learned := conclude_eq_learn here call.kind answer
        { c with session := (c.session.reading here).session, pending := [] }
      exact {
        attempted, allowed, endpoint, payload, timeout
        request := by simp [perform, begun]
        session := by simpa [perform, begun] using learned.1
        writes := by simpa [perform, begun] using learned.2
        events := by simp only [perform, begun, events_conclude]
        cache := by simp only [perform, begun, cache_conclude]
        pending := by simp [perform, begun]
        configuration_eq := by simp [perform, begun] }

/-- What a call comes to that gets as far as its request is up to the answer. -/
theorem result_of_request {here : Surroundings} {answer : Except Failure HttpReply} {call : Call}
    {c : Client} {request : HttpRequest} (h : (c.perform here answer call).request = some request) :
    (c.perform here answer call).result = call.kind.outcome answer := by
  unfold perform at *
  cases departed : (c.begin here call).request with
  | error failure => simp [departed] at h
  | ok request => simp only [departed, result_conclude]

theorem refused_of_not_attempts {here : Surroundings} (answer : Except Failure HttpReply)
    {call : Call} {c : Client} (not_attempted : c.attempts here call = false) :
    Refused here call c (c.perform here answer call) := by
  rcases perform_cases here answer call c with refused | ⟨_, stranded⟩ | ⟨_, _, sent⟩
  · exact refused
  · cases not_attempted.symm.trans stranded.attempted
  · cases not_attempted.symm.trans sent.attempted

theorem result_of_not_attempts {here : Surroundings} (answer : Except Failure HttpReply)
    {call : Call} {c : Client} (not_attempted : c.attempts here call = false) :
    (c.perform here answer call).result = .error (c.refusal call) := by
  rcases begin_cases here call c with ⟨-, -, refused⟩ | ⟨attempted, -⟩
  · simp [perform, refused]
  · cases not_attempted.symm.trans attempted

end Client

/-! ## Operations that are no calls -/

/-- Whether an operation forgets the visitor: a reset, or a configuration of one who opted out. -/
def Operation.forgets : Operation → Bool
  | .reset => true
  | .configure configuration => configuration.privacy = .optedOut
  | .call _ | .setThirdPartyId _ | .getIdentifiers => false

theorem Operation.forgets_iff {operation : Operation} :
    operation.forgets = true ↔
      operation = .reset ∨ ∃ configuration,
        operation = .configure configuration ∧ configuration.privacy = .optedOut := by
  cases operation <;> simp [forgets]

namespace Client

/-- What a configuration changes in the session of a visitor who did not opt out. -/
def reconfigured (configuration : Configuration) (c : Client) : Session.Change :=
  (if c.changesClientCode configuration then c.session.setEdgeHost none
    else c.session.unchanged).andThen fun s =>
      (s.setTimeout (configuration.sessionTimeout.getD Session.defaultTimeout)).unchanged

theorem configure_of_optedOut {configuration : Configuration}
    (optedOut : configuration.privacy = .optedOut) (c : Client) :
    c.configure configuration =
      let change := (c.reconfigured configuration).andThen Session.forget
      { client :=
          { session := change.session, cache := {}, pending := []
            configuration := some configuration }
        result := ()
        events := [.sharedState change.session.identity]
        writes := change.writes } := by
  simp only [configure, optedOut, if_true]
  simp [reconfigured, reset, identifiers]

/-- An operation that forgets the visitor leaves a forgotten session, no content and no reports. -/
theorem exists_forget_of_forgets {m : Moment} (forgets : m.operation.forgets = true) (c : Client) :
    ∃ s : Session, (c.act m).client =
      { session := s.forget.session, configuration := (c.act m).client.configuration } := by
  rcases Operation.forgets_iff.mp forgets with op | ⟨configuration, op, optedOut⟩
  · have client_eq : (c.act m).client = c.reset.client := client_act_of op c
    rw [client_eq]
    exact ⟨c.session, rfl⟩
  · have client_eq : (c.act m).client = (c.configure configuration).client := client_act_of op c
    rw [client_eq, configure_of_optedOut optedOut]
    exact ⟨(c.reconfigured configuration).session, rfl⟩

theorem configure_of_not_optedOut {configuration : Configuration}
    (not_optedOut : configuration.privacy ≠ .optedOut) (c : Client) :
    c.configure configuration =
      { client :=
          { c with
            session := (c.reconfigured configuration).session
            configuration := some configuration }
        result := ()
        writes := (c.reconfigured configuration).writes } := by
  simp only [configure, if_neg not_optedOut]
  simp [reconfigured]

theorem pending_configure (configuration : Configuration) (c : Client) :
    (c.configure configuration).client.pending =
      if configuration.privacy = .optedOut then [] else c.pending := by
  split
  · next optedOut => rw [configure_of_optedOut optedOut]
  · next not_optedOut => rw [configure_of_not_optedOut not_optedOut]

@[simp] theorem configuration_configure (configuration : Configuration) (c : Client) :
    (c.configure configuration).client.configuration = some configuration := by
  by_cases optedOut : configuration.privacy = .optedOut
  · rw [configure_of_optedOut optedOut]
  · rw [configure_of_not_optedOut optedOut]

@[simp] theorem request_configure (configuration : Configuration) (c : Client) :
    (c.configure configuration).request = none := by
  by_cases optedOut : configuration.privacy = .optedOut
  · rw [configure_of_optedOut optedOut]
  · rw [configure_of_not_optedOut optedOut]

theorem pending_setThirdPartyId (id : Option String) (c : Client) :
    (c.setThirdPartyId id).client.pending = c.pending := by
  unfold setThirdPartyId
  split <;> rfl

theorem cache_setThirdPartyId (id : Option String) (c : Client) :
    (c.setThirdPartyId id).client.cache = c.cache := by
  unfold setThirdPartyId
  split <;> rfl

theorem configuration_setThirdPartyId (id : Option String) (c : Client) :
    (c.setThirdPartyId id).client.configuration = c.configuration := by
  unfold setThirdPartyId
  split <;> rfl

@[simp] theorem request_setThirdPartyId (id : Option String) (c : Client) :
    (c.setThirdPartyId id).request = none := by
  unfold setThirdPartyId
  split <;> rfl

theorem configuration_perform (here : Surroundings) (answer : Except Failure HttpReply)
    (call : Call) (c : Client) :
    (c.perform here answer call).client.configuration = c.configuration := by
  rcases perform_cases here answer call c with refused | ⟨_, stranded⟩ | ⟨_, _, sent⟩
  · rw [refused.client]
  · rw [stranded.client]
  · exact sent.configuration_eq

/-- Only a configuration puts another one in effect. -/
theorem configuration_act (m : Moment) (c : Client) :
    (c.act m).client.configuration =
      match m.operation with
      | .configure configuration => some configuration
      | .call _ | .reset | .setThirdPartyId _ | .getIdentifiers => c.configuration := by
  rw [client_act]
  cases m.operation with
  | call call => exact c.configuration_perform m.here m.answer call
  | reset => rfl
  | setThirdPartyId id => exact c.configuration_setThirdPartyId id
  | getIdentifiers => rfl
  | configure configuration => exact c.configuration_configure configuration

/-- Only calls send requests. -/
theorem request_act_of_not_call {m : Moment} (not_call : ∀ call, m.operation ≠ .call call)
    (c : Client) : (c.act m).request = none := by
  rw [request_act]
  cases op : m.operation with
  | call call => exact absurd op (not_call call)
  | reset => rfl
  | setThirdPartyId id => exact c.request_setThirdPartyId id
  | getIdentifiers => rfl
  | configure configuration => exact c.request_configure configuration

theorem exists_sent_of_request {m : Moment} {c : Client} {request : HttpRequest}
    (h : (c.act m).request = some request) :
    ∃ call configuration, m.operation = .call call ∧
      Sent m.here m.answer call c configuration request (c.perform m.here m.answer call) := by
  by_cases is_call : ∃ call, m.operation = .call call
  · obtain ⟨call, op⟩ := is_call
    rw [request_act_call op] at h
    rcases perform_cases m.here m.answer call c with refused | ⟨_, stranded⟩ |
      ⟨configuration, sent_request, sent⟩
    · cases refused.request.symm.trans h
    · cases stranded.request.symm.trans h
    · obtain rfl : sent_request = request := Option.some.inj (sent.request.symm.trans h)
      exact ⟨call, configuration, op, sent⟩
  · cases (request_act_of_not_call (not_exists.mp is_call) c).symm.trans h

theorem request_start (store : KeyValueStore σ) (s : σ) (configuration : Option Configuration) :
    (start store s configuration).request = none := by
  cases configuration with
  | none => rfl
  | some configuration => exact request_configure configuration { session := Session.load store s }

theorem pending_start (store : KeyValueStore σ) (s : σ) (configuration : Option Configuration) :
    (start store s configuration).client.pending = [] := by
  cases configuration with
  | none => rfl
  | some configuration => simp [start, pending_configure]

theorem cache_start (store : KeyValueStore σ) (s : σ) (configuration : Option Configuration) :
    (start store s configuration).client.cache = {} := by
  cases configuration with
  | none => rfl
  | some configuration =>
    by_cases optedOut : configuration.privacy = .optedOut
    · exact congrArg (·.client.cache) (configure_of_optedOut optedOut _)
    · exact congrArg (·.client.cache) (configure_of_not_optedOut optedOut _)

end Client

end ContentDelivery
