/-
ContentDelivery.Proofs.Client.EdgeHost — where an edge host comes from.

`edge_host_confined`: whenever a request goes to an edge host, that host
is the last one that the service named, it was named in the reply to a
request of the same session and for the same client code, and since then
nobody changed the client code, not even there and back, and nobody
forgot the visitor. So the first request of a session, of a client and
after a change of the client code goes to the configured server or to
the host that belongs to the client code.

A client remembers no more than the edge host itself. What it was named
for is read off the run: `Pinned` points to the lap that named it, and
`RemembersPinned` is the invariant that there is one whenever a
configured client has an edge host. A lap keeps the edge host along with
all that it was named for, clears it or names it (`edgeHost_cases`).

The order of the two reads before a request matters. The edge host is
read first; reading the id of an expired session would record activity,
after which the edge host of the old session would pass as a current one.
-/
import ContentDelivery.Proofs.Client.Operations
import ContentDelivery.Proofs.Visitor.Reads

namespace ContentDelivery

/-! ## The edge host of a session -/

namespace Session

/-- Whether reading a session for a request starts a new one. -/
def startsAnew (here : Surroundings) (s : Session) : Bool :=
  s.id.isEmpty || s.isExpired here.seconds

/-- A session that goes on is read without a change. -/
theorem reading_of_goes_on {here : Surroundings} {s : Session}
    (goes_on : s.startsAnew here = false) : s.reading here = s.unchanged := by
  have going : s.id ≠ "" ∧ s.isExpired here.seconds = false := by
    simpa [startsAnew] using goes_on
  rw [reading, readEdgeHost_eq_unchanged (.inl going.2), unchanged_andThen,
    readId_of_goes_on going.1 going.2]

/-- A new session has no edge host, if the one without an id had none. -/
theorem reading_of_startsAnew {here : Surroundings} {s : Session}
    (starts : s.startsAnew here = true) (none_without_id : s.id = "" → s.edgeHost = none) :
    (s.reading here).session.edgeHost = none ∧
      (s.reading here).session.id = here.freshSessionId := by
  have restarts : s.readId here.seconds here.freshSessionId =
      s.restart here.seconds here.freshSessionId := if_pos starts
  rw [reading, readEdgeHost_andThen_readId_eq, restarts]
  refine ⟨?_, rfl⟩
  cases expired : s.isExpired here.seconds with
  | true => rfl
  | false =>
    have no_id : s.id = "" := by simpa [startsAnew, expired] using starts
    exact none_without_id no_id

@[simp] theorem id_absorb (now : Int64) (r : DeliveryReply) (s : Session) :
    (s.absorb now r).session.id = s.id := by
  unfold absorb
  cases r.tntId? <;> cases r.edgeHost? <;> simp [refresh, setTntId]

theorem edgeHost_absorb_of_named {now : Int64} {r : DeliveryReply} {host : String}
    (named : r.edgeHost? = some host) (s : Session) :
    (s.absorb now r).session.edgeHost = nonempty? (some host) := by
  simp [absorb, named]

theorem edgeHost_absorb_of_not_named {now : Int64} {r : DeliveryReply}
    (not_named : r.edgeHost? = none) (s : Session) :
    (s.absorb now r).session.edgeHost = s.edgeHost := by
  unfold absorb
  cases r.tntId? <;> simp [not_named, refresh, setTntId]

end Session

/-! ## Laps -/

namespace Lap

/-- The session as a request of the lap finds it. -/
def asking (l : Lap) : Session := (l.before.session.reading l.moment.here).session

/-- The edge host that a request of the lap is for. -/
def edgeHost (l : Lap) : Option String := l.asking.edgeHost

/-- The session's id that a request of the lap carries. -/
def sessionId (l : Lap) : String := l.asking.id

/-- Whether a request of the lap starts a new session. -/
def startsSession (l : Lap) : Bool := l.before.session.startsAnew l.moment.here

/-- The edge host that the reply of the lap names, if there was a request and a reply that can be
read. -/
def namedHost? (l : Lap) : Option String :=
  l.step.request.bind fun _ => (Session.readable? l.moment.answer).bind DeliveryReply.edgeHost?

/-- Whether the operation puts another client code in effect or forgets the visitor. -/
def dropsEdgeHost (l : Lap) : Bool :=
  l.moment.operation.forgets ||
    match l.moment.operation with
    | .configure configuration => l.before.changesClientCode configuration
    | .call _ | .reset | .setThirdPartyId _ | .getIdentifiers => false

/-- The request of a lap, with the configuration in effect and what its URL is made of. -/
structure Reaches (l : Lap) (configuration : Configuration) (request : HttpRequest) : Prop where
  configuration_eq : l.before.configuration = some configuration
  request_eq : l.step.request = some request
  url : Endpoint.url? configuration l.edgeHost l.sessionId = some request.url

/-- The reply to a request of a session, for a client code, names an edge host. -/
structure Names (l : Lap) (host sessionId clientCode : String) : Prop where
  reaches : ∃ configuration request,
    l.Reaches configuration request ∧ configuration.clientCode = clientCode
  sessionId_eq : l.sessionId = sessionId
  sessionId_nonempty : sessionId ≠ ""
  named : l.namedHost? = some host
  host_nonempty : host ≠ ""

/-- A lap that leaves the edge host alone along with all that it was named for. -/
structure Keeps (l : Lap) : Prop where
  edgeHost : l.step.client.session.edgeHost = l.before.session.edgeHost
  id : l.step.client.session.id = l.before.session.id
  clientCode : l.step.client.configuration.map Configuration.clientCode =
    l.before.configuration.map Configuration.clientCode
  not_named : l.namedHost? = none
  not_dropped : l.dropsEdgeHost = false

end Lap

namespace Client

theorem edgeHost_setThirdPartyId (id : Option String) (c : Client) :
    (c.setThirdPartyId id).client.session.edgeHost = c.session.edgeHost := by
  unfold setThirdPartyId
  split <;> rfl

theorem id_setThirdPartyId (id : Option String) (c : Client) :
    (c.setThirdPartyId id).client.session.id = c.session.id := by
  unfold setThirdPartyId
  split <;> rfl

/-- A configuration that brings another client code or forgets the visitor clears the edge host. -/
theorem edgeHost_configure_of_drops {configuration : Configuration} {c : Client}
    (drops : configuration.privacy = .optedOut ∨ c.changesClientCode configuration = true) :
    (c.configure configuration).client.session.edgeHost = none := by
  by_cases optedOut : configuration.privacy = .optedOut
  · rw [configure_of_optedOut optedOut]
    simp
  · rw [configure_of_not_optedOut optedOut]
    have changes := drops.resolve_left optedOut
    simp [reconfigured, changes, Session.setTimeout, nonempty?_none]

/-- Any other configuration leaves the session's ids alone. -/
theorem session_configure_of_keeps {configuration : Configuration} {c : Client}
    (not_optedOut : configuration.privacy ≠ .optedOut)
    (same : c.changesClientCode configuration = false) :
    (c.configure configuration).client.session.edgeHost = c.session.edgeHost ∧
      (c.configure configuration).client.session.id = c.session.id := by
  rw [configure_of_not_optedOut not_optedOut]
  simp [reconfigured, same, Session.setTimeout]

end Client

namespace Lap

theorem not_named_of_no_request {l : Lap} (h : l.step.request = none) : l.namedHost? = none := by
  simp [namedHost?, h]

theorem not_dropped_of_call {l : Lap} {call : Call} (h : l.moment.operation = .call call) :
    l.dropsEdgeHost = false := by
  simp [dropsEdgeHost, h, Operation.forgets]

/-- A session that had an edge host to be read goes on. -/
theorem asking_of_edgeHost {l : Lap} (none_without_id : l.before.session.id = "" →
    l.before.session.edgeHost = none) (has_host : l.edgeHost ≠ none) :
    l.asking = l.before.session := by
  unfold edgeHost asking at *
  cases starts : l.before.session.startsAnew l.moment.here with
  | false => rw [Session.reading_of_goes_on starts, Session.unchanged_session]
  | true => exact absurd (Session.reading_of_startsAnew starts none_without_id).1 has_host

theorem sessionId_nonempty (l : Lap) (fresh : l.moment.here.freshSessionId ≠ "")
    (none_without_id : l.before.session.id = "" → l.before.session.edgeHost = none) :
    l.sessionId ≠ "" := by
  unfold sessionId asking
  cases starts : l.before.session.startsAnew l.moment.here with
  | false =>
    have has_id := (Bool.or_eq_false_iff.mp starts).1
    rw [Session.reading_of_goes_on starts, Session.unchanged_session]
    intro no_id
    simp [no_id] at has_id
  | true =>
    rw [(Session.reading_of_startsAnew starts none_without_id).2]
    exact fresh

theorem reaches_of_request {l : Lap} {request : HttpRequest} (h : l.step.request = some request) :
    ∃ call configuration, l.moment.operation = .call call ∧ l.Reaches configuration request := by
  obtain ⟨call, configuration, is_call, sent⟩ := Client.exists_sent_of_request h
  have in_effect := (Configuration.forRequests_eq_ok.mp sent.allowed).1
  exact ⟨call, configuration, is_call, in_effect, h, sent.endpoint⟩

/-- The reads before a request keep an edge host along with the session's id, or clear it. -/
theorem edgeHost_cases_of_reading {l : Lap} {call : Call}
    (is_call : l.moment.operation = .call call)
    (none_without_id : l.before.session.id = "" → l.before.session.edgeHost = none)
    (same_edgeHost : l.step.client.session.edgeHost = l.edgeHost)
    (same_id : l.step.client.session.id = l.sessionId)
    (same_configuration : l.step.client.configuration = l.before.configuration)
    (not_named : l.namedHost? = none) :
    l.step.client.session.edgeHost = none ∨ l.Keeps := by
  by_cases has_host : l.edgeHost = none
  · exact .inl (same_edgeHost.trans has_host)
  · right
    have goes_on := asking_of_edgeHost none_without_id has_host
    exact {
      edgeHost := by rw [same_edgeHost, edgeHost, goes_on]
      id := by rw [same_id, sessionId, goes_on]
      clientCode := by rw [same_configuration]
      not_named
      not_dropped := not_dropped_of_call is_call }

/-- The reply to a request names an edge host for the session and the client code that it leaves
behind, takes away the one there is, or says nothing of it. -/
theorem edgeHost_cases_of_sent {l : Lap} {call : Call} {configuration : Configuration}
    {request : HttpRequest} (is_call : l.moment.operation = .call call)
    (fresh : l.moment.here.freshSessionId ≠ "")
    (none_without_id : l.before.session.id = "" → l.before.session.edgeHost = none)
    (sent : Client.Sent l.moment.here l.moment.answer call l.before configuration request
      (l.before.perform l.moment.here l.moment.answer call)) :
    l.step.client.session.edgeHost = none ∨
    l.Keeps ∨
    ∃ host configuration, l.Names host l.sessionId configuration.clientCode ∧
      l.step.client.session.edgeHost = some host ∧
      l.step.client.session.id = l.sessionId ∧
      l.step.client.configuration = some configuration := by
  have client_eq : l.step.client = _ := Client.client_act_call is_call l.before
  have request_eq : l.step.request = some request :=
    (Client.request_act_call is_call l.before).trans sent.request
  have session_eq : l.step.client.session =
      (l.asking.learn l.moment.here.seconds l.moment.answer).session := by
    rw [client_eq]
    exact sent.session
  have configuration_eq : l.step.client.configuration = l.before.configuration := by
    rw [client_eq]
    exact sent.configuration_eq
  have named_eq : l.namedHost? =
      (Session.readable? l.moment.answer).bind DeliveryReply.edgeHost? := by
    simp [namedHost?, request_eq]
  -- Without a named host the answer leaves what the reads before the request left.
  cases readable : Session.readable? l.moment.answer with
  | none =>
    simp only [Session.learn, readable, Session.unchanged_session] at session_eq
    have kept := edgeHost_cases_of_reading is_call none_without_id (by rw [session_eq]; rfl)
      (by rw [session_eq]; rfl) configuration_eq (by simp [named_eq, readable])
    exact kept.imp_right .inl
  | some r =>
    simp only [Session.learn, readable] at session_eq
    cases told : r.edgeHost? with
    | none =>
      have kept := edgeHost_cases_of_reading is_call none_without_id
        (by rw [session_eq, Session.edgeHost_absorb_of_not_named told]; rfl)
        (by rw [session_eq, Session.id_absorb]; rfl) configuration_eq
        (by simp [named_eq, readable, told])
      exact kept.imp_right .inl
    | some host =>
      have edgeHost_eq : l.step.client.session.edgeHost = nonempty? (some host) := by
        rw [session_eq, Session.edgeHost_absorb_of_named told]
      -- A reply with an empty edge host takes away the one there is.
      by_cases says_nothing : host = ""
      · left
        rw [edgeHost_eq, says_nothing, nonempty?_empty]
      · have in_effect := (Configuration.forRequests_eq_ok.mp sent.allowed).1
        refine .inr (.inr ⟨host, configuration, ?_, ?_, ?_, ?_⟩)
        · exact {
            reaches := ⟨configuration, request, ⟨in_effect, request_eq, sent.endpoint⟩, rfl⟩
            sessionId_eq := rfl
            sessionId_nonempty := l.sessionId_nonempty fresh none_without_id
            named := by simp [named_eq, readable, told]
            host_nonempty := says_nothing }
        · rw [edgeHost_eq]
          exact nonempty?_eq_some.mpr ⟨rfl, says_nothing⟩
        · rw [session_eq, Session.id_absorb]
          rfl
        · rw [configuration_eq, in_effect]

/-- A lap that sends nothing keeps the edge host if the client keeps it. -/
theorem keeps_of_not_call {l : Lap} (not_call : ∀ call, l.moment.operation ≠ .call call)
    (edgeHost : l.step.client.session.edgeHost = l.before.session.edgeHost)
    (id : l.step.client.session.id = l.before.session.id)
    (clientCode : l.step.client.configuration.map Configuration.clientCode =
      l.before.configuration.map Configuration.clientCode)
    (not_dropped : l.dropsEdgeHost = false) : l.Keeps where
  edgeHost := edgeHost
  id := id
  clientCode := clientCode
  not_named := not_named_of_no_request (Client.request_act_of_not_call not_call l.before)
  not_dropped := not_dropped

theorem keeps_of_setThirdPartyId {l : Lap} {id : Option String}
    (op : l.moment.operation = .setThirdPartyId id) : l.Keeps := by
  have client_eq : l.step.client = (l.before.setThirdPartyId id).client :=
    Client.client_act_of op l.before
  apply keeps_of_not_call
  · simp [op]
  · rw [client_eq, Client.edgeHost_setThirdPartyId]
  · rw [client_eq, Client.id_setThirdPartyId]
  · rw [client_eq, Client.configuration_setThirdPartyId]
  · simp [dropsEdgeHost, op, Operation.forgets]

theorem keeps_of_getIdentifiers {l : Lap} (op : l.moment.operation = .getIdentifiers) :
    l.Keeps := by
  have client_eq : l.step.client = l.before := Client.client_act_of op l.before
  apply keeps_of_not_call
  · simp [op]
  · rw [client_eq]
  · rw [client_eq]
  · rw [client_eq]
  · simp [dropsEdgeHost, op, Operation.forgets]

theorem keeps_of_configure {l : Lap} {configuration : Configuration}
    (op : l.moment.operation = .configure configuration)
    (not_optedOut : configuration.privacy ≠ .optedOut)
    (same : l.before.changesClientCode configuration = false) : l.Keeps := by
  have client_eq : l.step.client = (l.before.configure configuration).client :=
    Client.client_act_of op l.before
  obtain ⟨same_edgeHost, same_id⟩ := Client.session_configure_of_keeps not_optedOut same
  apply keeps_of_not_call
  · simp [op]
  · rw [client_eq, same_edgeHost]
  · rw [client_eq, same_id]
  · rw [client_eq, Client.configuration_configure]
    exact (bne_eq_false_iff_eq.mp same).symm
  · simp [dropsEdgeHost, op, Operation.forgets, not_optedOut, same]

theorem keeps_of_refused {l : Lap} {call : Call} (op : l.moment.operation = .call call)
    (refused : Client.Refused l.moment.here call l.before
      (l.before.perform l.moment.here l.moment.answer call)) : l.Keeps := by
  have client_eq : l.step.client = l.before :=
    (Client.client_act_call op l.before).trans refused.client
  exact {
    edgeHost := by rw [client_eq]
    id := by rw [client_eq]
    clientCode := by rw [client_eq]
    not_named := not_named_of_no_request
      ((Client.request_act_call op l.before).trans refused.request)
    not_dropped := not_dropped_of_call op }

/-- **What a lap does to the edge host**: it clears it, keeps it along with all that it was named
for, or has it named for the session and the client code that it leaves behind. -/
theorem edgeHost_cases (l : Lap) (fresh : l.moment.here.freshSessionId ≠ "")
    (none_without_id : l.before.configuration ≠ none → l.before.session.id = "" →
      l.before.session.edgeHost = none) :
    l.step.client.session.edgeHost = none ∨
    l.Keeps ∨
    ∃ host configuration, l.Names host l.sessionId configuration.clientCode ∧
      l.step.client.session.edgeHost = some host ∧
      l.step.client.session.id = l.sessionId ∧
      l.step.client.configuration = some configuration := by
  cases op : l.moment.operation with
  | call call =>
    rcases Client.perform_cases l.moment.here l.moment.answer call l.before with refused |
      ⟨configuration, stranded⟩ | ⟨configuration, request, sent⟩
    · exact .inr (.inl (keeps_of_refused op refused))
    · have in_effect := (Configuration.forRequests_eq_ok.mp stranded.allowed).1
      have client_eq := (Client.client_act_call op l.before).trans stranded.client
      have no_request := (Client.request_act_call op l.before).trans stranded.request
      have kept := edgeHost_cases_of_reading op (none_without_id (by simp [in_effect]))
        (congrArg (·.session.edgeHost) client_eq) (congrArg (·.session.id) client_eq)
        (congrArg (·.configuration) client_eq) (not_named_of_no_request no_request)
      exact kept.imp_right .inl
    · have in_effect := (Configuration.forRequests_eq_ok.mp sent.allowed).1
      exact edgeHost_cases_of_sent op fresh (none_without_id (by simp [in_effect])) sent
  | reset =>
    left
    have client_eq : l.step.client = l.before.reset.client := Client.client_act_of op l.before
    rw [client_eq]
    exact congrArg Session.edgeHost (Session.session_forget l.before.session)
  | setThirdPartyId id => exact .inr (.inl (keeps_of_setThirdPartyId op))
  | getIdentifiers => exact .inr (.inl (keeps_of_getIdentifiers op))
  | configure configuration =>
    by_cases drops : configuration.privacy = .optedOut ∨
        l.before.changesClientCode configuration = true
    · left
      have client_eq : l.step.client = (l.before.configure configuration).client :=
        Client.client_act_of op l.before
      rw [client_eq]
      exact Client.edgeHost_configure_of_drops drops
    · obtain ⟨not_optedOut, not_changed⟩ := not_or.mp drops
      exact .inr (.inl (keeps_of_configure op not_optedOut (Bool.not_eq_true _ ▸ not_changed)))

end Lap

/-! ## Where it was named -/

/-- Some lap of the past had an edge host named for a session and a client code, and none since
named another or dropped it. -/
def Pinned (past : List Lap) (host sessionId clientCode : String) : Prop :=
  ∃ earlier source between, past = earlier ++ source :: between ∧
    source.Names host sessionId clientCode ∧
    ∀ l ∈ between, l.namedHost? = none ∧ l.dropsEdgeHost = false

namespace Pinned

variable {past : List Lap} {l : Lap} {host sessionId clientCode : String}

theorem sessionId_nonempty (h : Pinned past host sessionId clientCode) : sessionId ≠ "" := by
  obtain ⟨_, source, _, -, names, -⟩ := h
  exact names.sessionId_nonempty

theorem host_nonempty (h : Pinned past host sessionId clientCode) : host ≠ "" := by
  obtain ⟨_, source, _, -, names, -⟩ := h
  exact names.host_nonempty

theorem of_names (past : List Lap) (names : l.Names host sessionId clientCode) :
    Pinned (past ++ [l]) host sessionId clientCode :=
  ⟨past, l, [], rfl, names, by simp⟩

theorem concat (h : Pinned past host sessionId clientCode) (not_named : l.namedHost? = none)
    (not_dropped : l.dropsEdgeHost = false) : Pinned (past ++ [l]) host sessionId clientCode := by
  obtain ⟨earlier, source, between, rfl, names, quiet⟩ := h
  refine ⟨earlier, source, between ++ [l], by simp, names, ?_⟩
  intro other among
  rcases List.mem_append.mp among with among | last
  · exact quiet other among
  · obtain rfl := List.mem_singleton.mp last
    exact ⟨not_named, not_dropped⟩

end Pinned

/-- Requests that come first: in their session, in the run, or since the edge host was dropped. -/
inductive IsFirst (past : List Lap) (l : Lap) : Prop where
  | ofSession (starts : l.startsSession = true)
  | ofRun (none_sent : ∀ earlier ∈ past, earlier.step.request = none)
  /-- As after a change of the client code. -/
  | sinceDrop (earlier : List Lap) (change : Lap) (between : List Lap)
    (split : past = earlier ++ change :: between) (drops : change.dropsEdgeHost = true)
    (none_sent : ∀ l ∈ between, l.step.request = none)

theorem Lap.Names.request_ne_none {l : Lap} {host sessionId clientCode : String}
    (names : l.Names host sessionId clientCode) : l.step.request ≠ none := by
  obtain ⟨_, request, reaches, -⟩ := names.reaches
  simp [reaches.request_eq]

theorem Lap.Names.not_dropped {l : Lap} {host sessionId clientCode : String}
    (names : l.Names host sessionId clientCode) : l.dropsEdgeHost = false := by
  obtain ⟨_, request, reaches, -⟩ := names.reaches
  obtain ⟨_, _, is_call, -⟩ := Lap.reaches_of_request reaches.request_eq
  exact Lap.not_dropped_of_call is_call

/-- The lap that named the edge host comes after every drop, and sent a request. -/
theorem Pinned.exists_request_of_split {past earlier between : List Lap} {change : Lap}
    {host sessionId clientCode : String} (h : Pinned past host sessionId clientCode)
    (split : past = earlier ++ change :: between) (drops : change.dropsEdgeHost = true) :
    ∃ l ∈ between, l.step.request ≠ none := by
  obtain ⟨before_source, source, since_source, rfl, names, quiet⟩ := h
  have source_ne_change : source ≠ change := by
    rintro rfl
    simp [names.not_dropped] at drops
  rcases List.append_eq_append_iff.mp split with ⟨gap, rfl, later⟩ | ⟨gap, rfl, later⟩
  · -- The change would come after the source.
    cases gap with
    | nil => exact absurd (List.cons.inj later).1 source_ne_change
    | cons first gap =>
      obtain ⟨-, rfl⟩ := List.cons.inj later
      have not_dropped := (quiet change (by simp)).2
      simp [not_dropped] at drops
  · cases gap with
    | nil => exact absurd (List.cons.inj later).1.symm source_ne_change
    | cons first gap =>
      obtain ⟨-, rfl⟩ := List.cons.inj later
      exact ⟨source, by simp, names.request_ne_none⟩

/-! ## Runs -/

/-- A configured client has its edge host from the past, for the session it is in and the client
code in effect. -/
def Client.RemembersPinned (past : List Lap) (c : Client) : Prop :=
  ∀ configuration host, c.configuration = some configuration → c.session.edgeHost = some host →
    Pinned past host c.session.id configuration.clientCode

namespace Client.RemembersPinned

variable {past : List Lap}

theorem none_without_id {c : Client} (h : c.RemembersPinned past)
    (configured : c.configuration ≠ none) (no_id : c.session.id = "") :
    c.session.edgeHost = none := by
  obtain ⟨configuration, in_effect⟩ := Option.ne_none_iff_exists'.mp configured
  cases had : c.session.edgeHost with
  | none => rfl
  | some host => exact absurd no_id (h configuration host in_effect had).sessionId_nonempty

theorem start (store : KeyValueStore σ) (s : σ) (configuration : Option Configuration) :
    (Client.start store s configuration).client.RemembersPinned past := by
  intro current host in_effect has_host
  -- Only a client that is started without a configuration keeps a stored edge host.
  cases configuration with
  | none => cases in_effect
  | some configuration =>
    have cleared : (Client.start store s (some configuration)).client.session.edgeHost = none :=
      edgeHost_configure_of_drops (.inr (by simp [changesClientCode]))
    cases cleared.symm.trans has_host

theorem step {l : Lap} (h : l.before.RemembersPinned past)
    (fresh : l.moment.here.freshSessionId ≠ "") :
    l.step.client.RemembersPinned (past ++ [l]) := by
  intro configuration host in_effect has_host
  rcases l.edgeHost_cases fresh h.none_without_id with cleared | kept |
    ⟨named, current, names, edgeHost_eq, id_eq, configuration_eq⟩
  · cases cleared.symm.trans has_host
  · have same_code := kept.clientCode
    rw [in_effect] at same_code
    obtain ⟨current, current_eq, code_eq⟩ := Option.map_eq_some_iff.mp same_code.symm
    have pinned := h current host current_eq (kept.edgeHost.symm.trans has_host)
    rw [code_eq, ← kept.id] at pinned
    exact pinned.concat kept.not_named kept.not_dropped
  · obtain rfl := Option.some.inj (configuration_eq.symm.trans in_effect)
    obtain rfl := Option.some.inj (edgeHost_eq.symm.trans has_host)
    rw [← id_eq] at names
    exact Pinned.of_names past names

/-- An edge host that is read for a request is pinned for the session's id that is read with it. -/
theorem pinned_of_edgeHost {l : Lap} (h : l.before.RemembersPinned past)
    {configuration : Configuration} (in_effect : l.before.configuration = some configuration)
    {host : String} (has_host : l.edgeHost = some host) :
    Pinned past host l.sessionId configuration.clientCode := by
  have goes_on : l.asking = l.before.session :=
    Lap.asking_of_edgeHost (h.none_without_id (by simp [in_effect])) (by simp [has_host])
  rw [Lap.edgeHost, goes_on] at has_host
  rw [Lap.sessionId, goes_on]
  exact h configuration host in_effect has_host

theorem edgeHost_of_isFirst {l : Lap} (h : l.before.RemembersPinned past)
    (configured : l.before.configuration ≠ none) (first : IsFirst past l) : l.edgeHost = none := by
  obtain ⟨configuration, in_effect⟩ := Option.ne_none_iff_exists'.mp configured
  cases had : l.edgeHost with
  | none => rfl
  | some host =>
    have pinned := h.pinned_of_edgeHost in_effect had
    cases first with
    | ofSession starts =>
      have anew := (Session.reading_of_startsAnew starts (h.none_without_id configured)).1
      exact had.symm.trans anew
    | ofRun none_sent =>
      obtain ⟨earlier, source, between, split, names, -⟩ := pinned
      exact absurd (none_sent source (by simp [split])) names.request_ne_none
    | sinceDrop earlier change between split drops none_sent =>
      obtain ⟨other, among, sends⟩ := pinned.exists_request_of_split split drops
      exact absurd (none_sent other among) sends

end Client.RemembersPinned

namespace Run

theorem remembersPinned (r : Run σ) (fresh : ∀ m ∈ r.moments, m.here.freshSessionId ≠ "") :
    r.client.RemembersPinned r.laps := by
  induction r using Run.induction with
  | start store contents configuration =>
    exact Client.RemembersPinned.start store contents configuration
  | next r m ih =>
    rw [client_next, laps_next]
    have before := ih fun earlier h => fresh earlier (List.mem_append_left _ h)
    exact before.step (l := r.lap m) (fresh m (by simp [next]))

/-- **Edge hosts stay where they were named.** Whatever was asked of a client over whatever store,
with any clock and any answers, as long as the ids of new sessions are not empty: the URL of a
request is made of the configuration in effect, the session's id and the edge host that was read.
Its host is the configured server, the one that belongs to the client code, or an edge host that was
the last one named, in the reply to a request of the same session and for the same client code, with
no change of the client code and no forgetting of the visitor since. A request that starts a
session, the first one of the client and the first one since a change of the client code go to one
of the former two. -/
theorem edge_host_confined (r : Run σ) (fresh : ∀ m ∈ r.moments, m.here.freshSessionId ≠ "")
    {m : Moment} {request : HttpRequest} (sent : (r.client.act m).request = some request) :
    ∃ configuration, (r.lap m).Reaches configuration request ∧
      (let host := Endpoint.hostText configuration (r.lap m).edgeHost
      (configuration.serverInEffect? = some host ∨
        configuration.serverInEffect? = none ∧ (r.lap m).edgeHost = none ∧
          host = configuration.clientCode ++ Endpoint.defaultHostSuffix ∨
        configuration.serverInEffect? = none ∧ (r.lap m).edgeHost = some host ∧
          Pinned r.laps host (r.lap m).sessionId configuration.clientCode) ∧
      (IsFirst r.laps (r.lap m) → host =
        configuration.serverInEffect?.getD
          (configuration.clientCode ++ Endpoint.defaultHostSuffix))) := by
  obtain ⟨_, configuration, -, reaches⟩ := Lap.reaches_of_request (l := r.lap m) sent
  have in_effect := reaches.configuration_eq
  have remembers : (r.lap m).before.RemembersPinned r.laps := r.remembersPinned fresh
  refine ⟨configuration, reaches, ?_, ?_⟩
  · cases server : configuration.serverInEffect? with
    | some host => exact .inl (by simp [Endpoint.hostText, server])
    | none =>
      right
      cases had : (r.lap m).edgeHost with
      | none => exact .inl ⟨rfl, rfl, by simp [Endpoint.hostText, server, nonempty?_none]⟩
      | some host =>
        have pinned := remembers.pinned_of_edgeHost in_effect had
        have host_eq : Endpoint.hostText configuration (some host) = host := by
          have nonempty := nonempty?_eq_some.mpr ⟨rfl, pinned.host_nonempty⟩
          simp [Endpoint.hostText, server, nonempty]
        rw [host_eq]
        exact .inr ⟨rfl, rfl, pinned⟩
  · intro first
    have no_host := remembers.edgeHost_of_isFirst (by simp [in_effect]) first
    simp [Endpoint.hostText, no_host, nonempty?_none]

/-- The second request of a session, after a reply that named an edge host. -/
theorem edge_host_confined_to_reply :
    let configuration : Configuration := { clientCode := "acme", privacy := .optedIn }
    let here : Surroundings :=
      { millis := 0, utcOffset := 0, freshSessionId := "first", freshNotificationId := fun _ => ""
        facts := {} }
    let call : Moment :=
      { here, answer := .ok { status := 200, body := "\x7b\"edgeHost\":\"edge\"\x7d".toUTF8 }
        operation := .call (.execute [{ name := "box" }] none), direct := true }
    let r : Run Storage :=
      { store := .memory, contents := ∅, configuration := some configuration, moments := [call] }
    (∀ m ∈ r.moments, m.here.freshSessionId ≠ "") ∧
    (∃ request, (r.client.act call).request = some request) ∧
    Endpoint.hostText configuration (r.lap call).edgeHost = "edge" ∧
    Pinned r.laps "edge" "first" "acme" := by
  intro configuration here call r
  have fresh : ∀ m ∈ r.moments, m.here.freshSessionId ≠ "" := by
    intro m h
    obtain rfl := List.mem_singleton.mp h
    decide
  have sends : (r.client.act call).request.isSome = true := by decide +kernel
  obtain ⟨request, sent⟩ := Option.isSome_iff_exists.mp sends
  have host_eq : (r.lap call).edgeHost = some "edge" := by decide +kernel
  have id_eq : (r.lap call).sessionId = "first" := by decide +kernel
  obtain ⟨in_effect, reaches, place, -⟩ := edge_host_confined r fresh sent
  have configuration_eq : (r.lap call).before.configuration = some configuration := by
    decide +kernel
  obtain rfl := Option.some.inj (configuration_eq.symm.trans reaches.configuration_eq)
  refine ⟨fresh, ⟨request, sent⟩, ?_, ?_⟩
  · rw [host_eq]
    decide
  · rcases place with to_server | ⟨-, no_host, -⟩ | ⟨-, -, pinned⟩
    · cases to_server
    · cases host_eq.symm.trans no_host
    · rw [host_eq, id_eq] at pinned
      exact pinned

end Run

end ContentDelivery
