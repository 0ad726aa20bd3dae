/-
ContentDelivery.Proofs.Client.Renaming — generated ids are names, and nothing hangs on them.

A `Renaming` says which generated ids stand for each other. Clients that
agree but for such ids are `Alike`, and they stay so: asked the same, in
surroundings that agree but for the ids that are made, they come to the
same results, tell the host the same, and send requests and writes that
agree but for ids (`Client.Alike.act`, over many operations
`Client.Alike.laps`).

An id of a session is looked at in one way only: whether it is empty.
Changes of a session that do not look at it at all `IgnoreId`, and these
are all of them but the start of a session and its end.
-/
import ContentDelivery.Proofs.Client.Continuity
import Mathlib.Data.List.Forall2
import Mathlib.Data.Option.Basic

namespace ContentDelivery

/-- Which generated ids stand for each other. -/
structure Renaming where
  session : String → String → Prop
  notification : String → String → Prop

variable {ρ : Renaming}

/-! ## Values that agree but for ids -/

/-- What surrounds two operations, but for the ids that are made. -/
structure Surroundings.Alike (ρ : Renaming) (a b : Surroundings) : Prop where
  millis : a.millis = b.millis
  utcOffset : a.utcOffset = b.utcOffset
  facts : a.facts = b.facts
  session : ρ.session a.freshSessionId b.freshSessionId
  nonempty : a.freshSessionId ≠ "" ∧ b.freshSessionId ≠ ""
  notification : ∀ number,
    ρ.notification (a.freshNotificationId number) (b.freshNotificationId number)

theorem Surroundings.Alike.seconds {a b : Surroundings} (alike : a.Alike ρ b) :
    a.seconds = b.seconds := by
  unfold Surroundings.seconds
  rw [alike.millis]

structure Moment.Alike (ρ : Renaming) (m n : Moment) : Prop where
  here : m.here.Alike ρ n.here
  answer : m.answer = n.answer
  operation : m.operation = n.operation
  direct : m.direct = n.direct

structure Notification.Alike (ρ : Renaming) (a b : Notification) : Prop where
  id : ρ.notification a.id b.id
  rest : { a with id := b.id } = b

inductive StoreEdit.Alike (ρ : Renaming) : StoreEdit → StoreEdit → Prop
  | same (w : StoreEdit) : Alike ρ w w
  | sessionId {s t : String} (related : ρ.session s t) :
      Alike ρ (.setString StoreKey.sessionId s) (.setString StoreKey.sessionId t)

structure Session.Alike (ρ : Renaming) (s t : Session) : Prop where
  id : s.id = "" ∧ t.id = "" ∨ s.id ≠ "" ∧ t.id ≠ "" ∧ ρ.session s.id t.id
  rest : { s with id := t.id } = t

structure Session.Change.Alike (ρ : Renaming) (a b : Change) : Prop where
  session : a.session.Alike ρ b.session
  writes : List.Forall₂ (StoreEdit.Alike ρ) a.writes b.writes

/-- Requests to the same endpoint, for sessions that stand for each other. -/
structure HttpRequest.Alike (ρ : Renaming) (a b : HttpRequest) : Prop where
  url : ∃ base configuration s t, ρ.session s t ∧
    a.url = Url.appendPairs (Endpoint.query configuration s) base ∧
    b.url = Url.appendPairs (Endpoint.query configuration t) base
  notifications : List.Forall₂ (Notification.Alike ρ) a.payload.notifications
    b.payload.notifications
  payload : { a.payload with notifications := b.payload.notifications } = b.payload
  timeout : a.timeout = b.timeout

structure Client.Alike (ρ : Renaming) (c d : Client) : Prop where
  session : c.session.Alike ρ d.session
  cache : c.cache = d.cache
  pending : List.Forall₂ (Notification.Alike ρ) c.pending d.pending
  configuration : c.configuration = d.configuration

structure Step.Alike (ρ : Renaming) (a b : Step α) : Prop where
  client : a.client.Alike ρ b.client
  result : a.result = b.result
  request : Option.Rel (HttpRequest.Alike ρ) a.request b.request
  events : a.events = b.events
  writes : List.Forall₂ (StoreEdit.Alike ρ) a.writes b.writes

/-! ## Reports -/

namespace Notification

theorem alike_display? {a b : String} (related : ρ.notification a b) (timestamp : Int64)
    (parameters : Parameters) (name : String) (content : MboxContent) :
    List.Forall₂ (Alike ρ) (display? a timestamp parameters name content).toList
      (display? b timestamp parameters name content).toList := by
  unfold display?
  cases content.state? with
  | none => exact .nil
  | some state =>
    by_cases none_shown : content.displayTokens = []
    · simp [none_shown, guard]
    · simpa [none_shown, guard] using ⟨related, rfl⟩

theorem alike_click? {a b : String} (related : ρ.notification a b) (timestamp : Int64)
    (parameters : Parameters) (name : String) (content : MboxContent) :
    List.Forall₂ (Alike ρ) (click? a timestamp parameters name content).toList
      (click? b timestamp parameters name content).toList := by
  unfold click?
  by_cases none_clicked : content.clickTokens = []
  · simp [none_clicked, guard]
  · simpa [none_clicked, guard] using ⟨related, rfl⟩

end Notification

/-! ## Sessions -/

namespace Session

/-- A change that neither looks at the session's id nor replaces it. -/
def IgnoresId (f : Session → Change) : Prop :=
  ∀ s id, f { s with id } = { session := { (f s).session with id }, writes := (f s).writes }

theorem IgnoresId.andThen {f g : Session → Change} (first : IgnoresId f) (second : IgnoresId g) :
    IgnoresId fun s => (f s).andThen g := by
  intro s id
  simp only [Change.andThen, first s id, second (f s).session id]

theorem ignoresId_unchanged : IgnoresId unchanged := fun _ _ => rfl

theorem ignoresId_refresh (now : Int64) : IgnoresId (refresh now) := fun _ _ => rfl

theorem ignoresId_setTntId (id : Option String) : IgnoresId (setTntId id) := fun _ _ => rfl

theorem ignoresId_setThirdPartyId (id : Option String) : IgnoresId (setThirdPartyId id) :=
  fun _ _ => rfl

theorem ignoresId_setTimeout (timeout : Duration) :
    IgnoresId fun s => (s.setTimeout timeout).unchanged := fun _ _ => rfl

theorem ignoresId_setEdgeHost (host : Option String) : IgnoresId (setEdgeHost host) := by
  intro s id
  by_cases same : nonempty? host = s.edgeHost <;> simp [setEdgeHost, same, unchanged]

theorem ignoresId_readEdgeHost (now : Int64) : IgnoresId (readEdgeHost now) := by
  intro s id
  have same_expiry : { s with id }.isExpired now = s.isExpired now := rfl
  unfold readEdgeHost
  rw [same_expiry]
  cases s.isExpired now with
  | false => rfl
  | true => exact ignoresId_setEdgeHost none s id

theorem ignoresId_absorb (now : Int64) (r : DeliveryReply) : IgnoresId (absorb now r) := by
  unfold absorb
  refine ((ignoresId_refresh now).andThen ?_).andThen ?_
  · cases r.tntId? with
    | none => exact ignoresId_unchanged
    | some id => exact ignoresId_setTntId (some id)
  · cases r.edgeHost? with
    | none => exact ignoresId_unchanged
    | some host => exact ignoresId_setEdgeHost (some host)

theorem ignoresId_learn (now : Int64) (answer : Except Failure HttpReply) :
    IgnoresId (learn now answer) := by
  unfold learn
  cases readable? answer with
  | none => exact ignoresId_unchanged
  | some r => exact ignoresId_absorb now r

end Session

theorem StoreEdit.alike_self (writes : List StoreEdit) :
    List.Forall₂ (StoreEdit.Alike ρ) writes writes :=
  List.forall₂_same.mpr fun w _ => .same w

namespace Session

theorem Change.Alike.andThen {a b : Change} {f g : Session → Change} (alike : a.Alike ρ b)
    (next : ∀ {s t : Session}, s.Alike ρ t → (f s).Alike ρ (g t)) :
    (a.andThen f).Alike ρ (b.andThen g) :=
  ⟨(next alike.session).session, List.rel_append alike.writes (next alike.session).writes⟩

namespace Alike

variable {s t : Session}

theorem identity (alike : s.Alike ρ t) : s.identity = t.identity := by
  rw [← alike.rest]
  rfl

theorem edgeHost (alike : s.Alike ρ t) : s.edgeHost = t.edgeHost := by
  rw [← alike.rest]

theorem isExpired (alike : s.Alike ρ t) (now : Int64) : s.isExpired now = t.isExpired now := by
  rw [← alike.rest]
  rfl

theorem isEmpty_id (alike : s.Alike ρ t) : s.id.isEmpty = t.id.isEmpty := by
  rw [Bool.eq_iff_iff, String.isEmpty_iff, String.isEmpty_iff]
  rcases alike.id with ⟨s_empty, t_empty⟩ | ⟨s_nonempty, t_nonempty, -⟩
  · simp [s_empty, t_empty]
  · simp [s_nonempty, t_nonempty]

/-- What ignores the id keeps sessions alike, and writes the same. -/
theorem change {f : Session → Change} (alike : s.Alike ρ t) (ignores : IgnoresId f) :
    (f s).Alike ρ (f t) := by
  have id_kept : (f s).session.id = s.id := by
    have unread : (f s).session = { (f s).session with id := s.id } :=
      congrArg Change.session (ignores s s.id)
    rw [unread]
  have other : f t = { session := { (f s).session with id := t.id }, writes := (f s).writes } := by
    rw [← ignores s t.id, alike.rest]
  rw [other]
  exact ⟨⟨by rw [id_kept]; exact alike.id, rfl⟩, StoreEdit.alike_self _⟩

theorem restart {a b : Surroundings} (alike : s.Alike ρ t) (here : a.Alike ρ b) (now : Int64) :
    (s.restart now a.freshSessionId).Alike ρ (t.restart now b.freshSessionId) := by
  refine Change.Alike.andThen ⟨⟨?_, ?_⟩, ?_⟩ (change · (ignoresId_refresh now))
  · exact .inr ⟨here.nonempty.1, here.nonempty.2, here.session⟩
  · rw [← alike.rest]
  · exact .cons (.sessionId here.session) .nil

theorem forget (alike : s.Alike ρ t) : s.forget.Alike ρ t.forget := by
  unfold Session.forget
  refine Change.Alike.andThen (Change.Alike.andThen (Change.Alike.andThen ?_ ?_) ?_) ?_
  · exact alike.change (ignoresId_setTntId none)
  · exact fun alike => alike.change (ignoresId_setThirdPartyId none)
  · exact fun alike => alike.change (ignoresId_setEdgeHost none)
  · intro s t alike
    refine ⟨⟨.inl ⟨rfl, rfl⟩, ?_⟩, StoreEdit.alike_self _⟩
    rw [← alike.rest]
    rfl

/-- Sessions that are alike are read alike. -/
theorem reading {a b : Surroundings} (alike : s.Alike ρ t) (here : a.Alike ρ b) :
    (s.reading a).Alike ρ (t.reading b) := by
  unfold Session.reading
  rw [← here.seconds]
  refine Change.Alike.andThen (alike.change (ignoresId_readEdgeHost a.seconds)) ?_
  intro s t alike
  unfold readId
  rw [alike.isEmpty_id, alike.isExpired]
  cases t.id.isEmpty || t.isExpired a.seconds with
  | false => exact alike.change ignoresId_unchanged
  | true => exact alike.restart here a.seconds

/-- After a session was read its id is not empty. -/
theorem session_reading {a b : Surroundings} (alike : s.Alike ρ t) (here : a.Alike ρ b) :
    ρ.session (s.reading a).session.id (t.reading b).session.id := by
  have nonempty : (s.reading a).session.id ≠ "" := by
    rw [id_reading]
    cases starts : s.startsAnew a with
    | true => exact here.nonempty.1
    | false => simpa [Session.startsAnew] using (Bool.or_eq_false_iff.mp starts).1
  rcases (alike.reading here).session.id with ⟨empty, -⟩ | ⟨-, -, related⟩
  · exact absurd empty nonempty
  · exact related

end Alike

end Session

/-! ## Requests -/

/-- Whether a host makes a URL does not depend on the session, and neither does the URL but for the
session's id. -/
theorem Endpoint.url?_cases (configuration : Configuration) (edgeHost : Option String) :
    (∀ sessionId, url? configuration edgeHost sessionId = none) ∨
    ∃ base, ∀ sessionId, url? configuration edgeHost sessionId =
      some (Url.appendPairs (query configuration sessionId) base) := by
  unfold url?
  cases Url.ofText? ("//" ++ hostText configuration edgeHost ++ path).toList with
  | none => exact .inl fun _ => rfl
  | some base => exact .inr ⟨base, fun _ => rfl⟩

/-- Reports go into a payload as they are, and into no other part of it. -/
theorem DeliveryRequest.assemble_eq_ok {facts : HostFacts} {utcOffset : Int32}
    {configuration : Configuration} {visitor : IdentityState} {selection : MboxSelection}
    {ofCall : Option Parameters} {first second : List Notification} {a b : DeliveryRequest}
    (one : assemble facts utcOffset configuration visitor selection ofCall first = .ok a)
    (other : assemble facts utcOffset configuration visitor selection ofCall second = .ok b) :
    a.notifications = first ∧ b.notifications = second ∧
      { a with notifications := b.notifications } = b := by
  refine ⟨notifications_of_assemble one, notifications_of_assemble other, ?_⟩
  unfold assemble at one other
  split at one
  · cases one
  · split at other
    · cases other
    · cases one
      cases other
      rfl

namespace Client

variable {a b : Surroundings} {c d : Client}

theorem alike_displays (here : a.Alike ρ b) (parameters : Parameters)
    (shown : List (String × MboxContent)) :
    List.Forall₂ (Notification.Alike ρ) (displays a parameters shown)
      (displays b parameters shown) := by
  unfold displays
  -- The number of a report is the number of reports made before, which is the same on both sides.
  suffices step : ∀ first second : List Notification,
      List.Forall₂ (Notification.Alike ρ) first second →
      List.Forall₂ (Notification.Alike ρ)
        (shown.foldl (fun made mbox =>
          made ++ (Notification.display? (a.freshNotificationId made.length) a.millis parameters
            mbox.1 mbox.2).toList) first)
        (shown.foldl (fun made mbox =>
          made ++ (Notification.display? (b.freshNotificationId made.length) b.millis parameters
            mbox.1 mbox.2).toList) second) from step [] [] .nil
  induction shown with
  | nil => exact fun first second alike => alike
  | cons mbox shown ih =>
    intro first second alike
    refine ih _ _ (List.rel_append alike ?_)
    rw [alike.length_eq, here.millis]
    exact Notification.alike_display? (here.notification second.length) b.millis parameters _ _

namespace Alike

theorem reports (alike : c.Alike ρ d) (here : a.Alike ρ b) (call : Call) :
    List.Forall₂ (Notification.Alike ρ) (c.reports a call) (d.reports b call) := by
  unfold Client.reports
  rw [alike.configuration, alike.cache, here.facts]
  cases Configuration.forRequests d.configuration with
  | error failure => exact .nil
  | ok configuration =>
    cases call with
    | prefetch mboxes ps => exact .nil
    | execute mboxes ps => exact .nil
    | displayed names ps => exact alike_displays here _ _
    | clicked name ps =>
      cases found : d.cache.find? name with
      | none => simp [found]
      | some content =>
        simp only [found, Option.bind_some, here.millis]
        exact Notification.alike_click? (here.notification 0) b.millis _ name content

theorem pending_reports (alike : c.Alike ρ d) (here : a.Alike ρ b) (call : Call) :
    List.Forall₂ (Notification.Alike ρ) (c.pending ++ c.reports a call)
      (d.pending ++ d.reports b call) :=
  List.rel_append alike.pending (alike.reports here call)

theorem refusal (alike : c.Alike ρ d) (call : Call) : c.refusal call = d.refusal call := by
  unfold Client.refusal
  rw [alike.configuration, alike.cache]

theorem attempts (alike : c.Alike ρ d) (here : a.Alike ρ b) (call : Call) :
    c.attempts a call = d.attempts b call := by
  have isEmpty_eq : ∀ {first second : List Notification},
      List.Forall₂ (Notification.Alike ρ) first second → first.isEmpty = second.isEmpty := by
    rintro _ _ (_ | _) <;> rfl
  unfold Client.attempts hasToSend
  rw [alike.configuration]
  cases call with
  | prefetch mboxes ps => simp only [isEmpty_eq alike.pending]
  | execute mboxes ps => simp only [isEmpty_eq alike.pending]
  | displayed names ps => simp only [isEmpty_eq (alike.pending_reports here _)]
  | clicked name ps => simp only [isEmpty_eq (alike.reports here _)]

theorem endpoint (alike : c.Alike ρ d) (here : a.Alike ρ b) (configuration : Configuration) :
    let read := (c.session.reading a).session
    let other := (d.session.reading b).session
    (Endpoint.url? configuration read.edgeHost read.id = none ∧
      Endpoint.url? configuration other.edgeHost other.id = none) ∨
    ∃ base,
      Endpoint.url? configuration read.edgeHost read.id =
        some (Url.appendPairs (Endpoint.query configuration read.id) base) ∧
      Endpoint.url? configuration other.edgeHost other.id =
        some (Url.appendPairs (Endpoint.query configuration other.id) base) := by
  intro read other
  have same_host : read.edgeHost = other.edgeHost := (alike.session.reading here).session.edgeHost
  rw [same_host]
  rcases Endpoint.url?_cases configuration other.edgeHost with none_made | ⟨base, made⟩
  · exact .inl ⟨none_made _, none_made _⟩
  · exact .inr ⟨base, made _, made _⟩

theorem forRequests (alike : c.Alike ρ d) {first second : Configuration}
    (one : Configuration.forRequests c.configuration = .ok first)
    (other : Configuration.forRequests d.configuration = .ok second) : first = second := by
  rw [alike.configuration, other] at one
  exact (Except.ok.inj one).symm

/-! ## Operations -/

theorem refused {answer : Except Failure HttpReply} {call : Call} (alike : c.Alike ρ d)
    (here : a.Alike ρ b) (refused : Refused a call c (c.perform a answer call)) :
    Step.Alike ρ (c.perform a answer call) (d.perform b answer call) := by
  have not_attempted : d.attempts b call = false :=
    (alike.attempts here call).symm.trans refused.not_attempted
  have other := refused_of_not_attempts answer not_attempted
  exact {
    client := by rw [refused.client, other.client]; exact alike
    result := by
      rw [result_of_not_attempts answer refused.not_attempted,
        result_of_not_attempts answer not_attempted, alike.refusal]
    request := by rw [refused.request, other.request]; exact .none
    events := by rw [refused.events, other.events]
    writes := by rw [refused.writes, other.writes]; exact .nil }

theorem stranded {answer : Except Failure HttpReply} {call : Call} {configuration : Configuration}
    (alike : c.Alike ρ d) (here : a.Alike ρ b)
    (stranded : Stranded a call c configuration (c.perform a answer call)) :
    Step.Alike ρ (c.perform a answer call) (d.perform b answer call) := by
  have read := alike.session.reading here
  rcases perform_cases b answer call d with refused | ⟨_, other⟩ | ⟨_, request, sent⟩
  · cases refused.not_attempted.symm.trans
      ((alike.attempts here call).symm.trans stranded.attempted)
  · exact {
      client := by
        rw [stranded.client, other.client]
        exact ⟨read.session, alike.cache, alike.pending_reports here call, alike.configuration⟩
      result := by rw [stranded.result, other.result]
      request := by rw [stranded.request, other.request]; exact .none
      events := by rw [stranded.events, other.events]
      writes := by rw [stranded.writes, other.writes]; exact read.writes }
  · cases alike.forRequests stranded.allowed sent.allowed
    rcases alike.endpoint here configuration with ⟨-, none_made⟩ | ⟨_, made, -⟩
    · cases none_made.symm.trans sent.endpoint
    · cases stranded.endpoint.symm.trans made

theorem sent {answer : Except Failure HttpReply} {call : Call} {configuration : Configuration}
    {request : HttpRequest} (alike : c.Alike ρ d) (here : a.Alike ρ b)
    (sent : Sent a answer call c configuration request (c.perform a answer call)) :
    Step.Alike ρ (c.perform a answer call) (d.perform b answer call) := by
  rcases perform_cases b answer call d with refused | ⟨_, stranded⟩ | ⟨_, answering, other⟩
  · cases refused.not_attempted.symm.trans ((alike.attempts here call).symm.trans sent.attempted)
  · cases alike.forRequests sent.allowed stranded.allowed
    rcases alike.endpoint here configuration with ⟨none_made, -⟩ | ⟨_, -, made⟩
    · cases none_made.symm.trans sent.endpoint
    · cases stranded.endpoint.symm.trans made
  · cases alike.forRequests sent.allowed other.allowed
    have learned : Session.Change.Alike ρ
        ((c.session.reading a).andThen (Session.learn a.seconds answer))
        ((d.session.reading b).andThen (Session.learn b.seconds answer)) := by
      rw [here.seconds]
      exact (alike.session.reading here).andThen fun read =>
        read.change (Session.ignoresId_learn b.seconds answer)
    have client : (c.perform a answer call).client.Alike ρ (d.perform b answer call).client := {
      session := by rw [sent.session, other.session]; exact learned.session
      cache := by rw [sent.cache, other.cache, alike.cache]
      pending := by rw [sent.pending, other.pending]; exact .nil
      configuration := by rw [sent.configuration_eq, other.configuration_eq, alike.configuration] }
    have requests : HttpRequest.Alike ρ request answering := by
      have payload := other.payload
      rw [← here.facts, ← here.utcOffset, ← alike.session.identity] at payload
      obtain ⟨notifications, others, same⟩ := DeliveryRequest.assemble_eq_ok sent.payload payload
      rcases alike.endpoint here configuration with ⟨none_made, -⟩ | ⟨base, made, made_other⟩
      · cases none_made.symm.trans sent.endpoint
      · exact {
          url := ⟨base, configuration, _, _, alike.session.session_reading here,
            Option.some.inj (sent.endpoint.symm.trans made),
            Option.some.inj (other.endpoint.symm.trans made_other)⟩
          notifications := by
            rw [notifications, others]
            exact alike.pending_reports here call
          payload := same
          timeout := by rw [sent.timeout, other.timeout] }
    exact {
      client
      result := by rw [result_of_request sent.request, result_of_request other.request]
      request := by rw [sent.request, other.request]; exact .some requests
      events := by
        rw [sent.events, other.events, identifiers, identifiers, client.session.identity]
      writes := by rw [sent.writes, other.writes]; exact learned.writes }

theorem perform (alike : c.Alike ρ d) (here : a.Alike ρ b) (answer : Except Failure HttpReply)
    (call : Call) : Step.Alike ρ (c.perform a answer call) (d.perform b answer call) := by
  rcases perform_cases a answer call c with refused | ⟨_, stranded⟩ | ⟨_, _, sent⟩
  · exact alike.refused here refused
  · exact alike.stranded here stranded
  · exact alike.sent here sent

theorem reset (alike : c.Alike ρ d) : Step.Alike ρ c.reset d.reset := by
  have forgotten := alike.session.forget
  exact {
    client := ⟨forgotten.session, rfl, .nil, alike.configuration⟩
    result := rfl
    request := .none
    events := congrArg (fun visitor => [Event.sharedState visitor]) forgotten.session.identity
    writes := forgotten.writes }

theorem setThirdPartyId (alike : c.Alike ρ d) (id : Option String) :
    Step.Alike ρ (c.setThirdPartyId id) (d.setThirdPartyId id) := by
  unfold Client.setThirdPartyId
  rw [alike.configuration]
  split
  · exact ⟨alike, rfl, .none, rfl, .nil⟩
  · have changed := alike.session.change (Session.ignoresId_setThirdPartyId id)
    exact {
      client := ⟨changed.session, alike.cache, alike.pending, rfl⟩
      result := rfl
      request := .none
      events := congrArg (fun visitor => [Event.sharedState visitor]) changed.session.identity
      writes := changed.writes }

theorem reconfigured (alike : c.Alike ρ d) (configuration : Configuration) :
    (c.reconfigured configuration).Alike ρ (d.reconfigured configuration) := by
  unfold Client.reconfigured changesClientCode
  rw [alike.configuration]
  refine Session.Change.Alike.andThen ?_ fun kept =>
    kept.change (Session.ignoresId_setTimeout (configuration.sessionTimeout.getD _))
  split
  · exact alike.session.change (Session.ignoresId_setEdgeHost none)
  · exact alike.session.change Session.ignoresId_unchanged

theorem configure (alike : c.Alike ρ d) (configuration : Configuration) :
    Step.Alike ρ (c.configure configuration) (d.configure configuration) := by
  have changed := alike.reconfigured configuration
  by_cases optedOut : configuration.privacy = .optedOut
  · rw [configure_of_optedOut optedOut, configure_of_optedOut optedOut]
    have forgotten := changed.andThen Session.Alike.forget
    exact {
      client := ⟨forgotten.session, rfl, .nil, rfl⟩
      result := rfl
      request := .none
      events := congrArg (fun visitor => [Event.sharedState visitor]) forgotten.session.identity
      writes := forgotten.writes }
  · rw [configure_of_not_optedOut optedOut, configure_of_not_optedOut optedOut]
    exact {
      client := ⟨changed.session, alike.cache, alike.pending, rfl⟩
      result := rfl
      request := .none
      events := rfl
      writes := changed.writes }

theorem handle (alike : c.Alike ρ d) (here : a.Alike ρ b) (answer : Except Failure HttpReply)
    (operation : Operation) :
    Step.Alike ρ (c.handle a answer operation) (d.handle b answer operation) := by
  cases operation with
  | call call =>
    have performed := alike.perform here answer call
    exact { performed with
      result := congrArg (Except.map fun _ => ()) performed.result
      events := by simp only [Client.handle, performed.result, performed.events] }
  | reset => exact { alike.reset with result := rfl }
  | setThirdPartyId id => exact { alike.setThirdPartyId id with result := rfl }
  | getIdentifiers =>
    have told := congrArg (fun visitor => [Event.identityResponse visitor]) alike.session.identity
    exact ⟨alike, rfl, .none, told, .nil⟩
  | configure configuration => exact { alike.configure configuration with result := rfl }

theorem direct (alike : c.Alike ρ d) (here : a.Alike ρ b) (answer : Except Failure HttpReply)
    (operation : Operation) :
    Step.Alike ρ (c.direct a answer operation) (d.direct b answer operation) := by
  cases operation with
  | call call =>
    have performed := alike.perform here answer call
    exact { performed with result := congrArg Outcome.content performed.result }
  | reset => exact { alike.reset with result := rfl }
  | setThirdPartyId id => exact { alike.setThirdPartyId id with result := rfl }
  | getIdentifiers =>
    have told := congrArg Outcome.identifiers alike.session.identity
    exact ⟨alike, told, .none, rfl, .nil⟩
  | configure configuration => exact { alike.configure configuration with result := rfl }

/-- **Clients that agree but for generated ids go on to agree**, and so does what they do. -/
theorem act {m n : Moment} (alike : c.Alike ρ d) (same : m.Alike ρ n) :
    Step.Alike ρ (c.act m) (d.act n) := by
  unfold Client.act
  rw [same.direct, same.answer, same.operation]
  split
  · exact alike.direct same.here n.answer n.operation
  · have handled := alike.handle same.here n.answer n.operation
    exact { handled with result := congrArg Outcome.handled handled.result }

/-- Over any number of operations. -/
theorem laps {ms ns : List Moment} (alike : c.Alike ρ d)
    (same : List.Forall₂ (Moment.Alike ρ) ms ns) :
    List.Forall₂ (fun k l => Step.Alike ρ k.step l.step) (c.laps ms) (d.laps ns) := by
  induction same generalizing c d with
  | nil => exact .nil
  | cons first _ ih =>
    have step := alike.act first
    exact .cons step (ih step.client)

end Alike

end Client

/-! ## Renaming by place -/

/-- Two operations that are the same, in surroundings that are the same, but for the ids that are
made. -/
structure Moment.SameButIds (m n : Moment) : Prop where
  millis : m.here.millis = n.here.millis
  utcOffset : m.here.utcOffset = n.here.utcOffset
  facts : m.here.facts = n.here.facts
  answer : m.answer = n.answer
  operation : m.operation = n.operation
  direct : m.direct = n.direct

/-- Every id is made at one place of some operations only. -/
structure DistinctIds (ms : List Moment) : Prop where
  session : ∀ {i j : Nat} {m n : Moment}, ms[i]? = some m → ms[j]? = some n →
    m.here.freshSessionId = n.here.freshSessionId → i = j
  notification : ∀ {i j k l : Nat} {m n : Moment}, ms[i]? = some m → ms[j]? = some n →
    m.here.freshNotificationId k = n.here.freshNotificationId l → i = j ∧ k = l

namespace Renaming

/-- Ids stand for each other that are made at the same place of two sequences of operations. -/
def ofPlaces (ms ns : List Moment) : Renaming where
  session s t := ∃ (i : Nat) (m n : Moment), ms[i]? = some m ∧ ns[i]? = some n ∧
    m.here.freshSessionId = s ∧ n.here.freshSessionId = t
  notification s t := ∃ (i k : Nat) (m n : Moment), ms[i]? = some m ∧ ns[i]? = some n ∧
    m.here.freshNotificationId k = s ∧ n.here.freshNotificationId k = t

/-- No id stands for two. -/
structure OneToOne (ρ : Renaming) : Prop where
  session : Relator.BiUnique ρ.session
  notification : Relator.BiUnique ρ.notification

theorem oneToOne_ofPlaces {ms ns : List Moment} (first : DistinctIds ms) (second : DistinctIds ns) :
    (ofPlaces ms ns).OneToOne where
  session := by
    constructor
    · rintro _ _ _ ⟨i, m, n, hm, hn, rfl, rfl⟩ ⟨j, m', n', hm', hn', rfl, same⟩
      obtain rfl := second.session hn' hn same
      cases hm.symm.trans hm'
      rfl
    · rintro _ _ _ ⟨i, m, n, hm, hn, rfl, rfl⟩ ⟨j, m', n', hm', hn', same, rfl⟩
      obtain rfl := first.session hm' hm same
      cases hn.symm.trans hn'
      rfl
  notification := by
    constructor
    · rintro _ _ _ ⟨i, k, m, n, hm, hn, rfl, rfl⟩ ⟨j, l, m', n', hm', hn', rfl, same⟩
      obtain ⟨rfl, rfl⟩ := second.notification hn' hn same
      cases hm.symm.trans hm'
      rfl
    · rintro _ _ _ ⟨i, k, m, n, hm, hn, rfl, rfl⟩ ⟨j, l, m', n', hm', hn', same, rfl⟩
      obtain ⟨rfl, rfl⟩ := first.notification hm' hm same
      cases hn.symm.trans hn'
      rfl

end Renaming

theorem Moment.alike_ofPlaces {ms ns : List Moment} (common : List.Forall₂ SameButIds ms ns)
    (nonempty : ∀ m ∈ ms ++ ns, m.here.freshSessionId ≠ "") :
    List.Forall₂ (Moment.Alike (.ofPlaces ms ns)) ms ns := by
  rw [List.forall₂_iff_get] at common ⊢
  obtain ⟨length_eq, same⟩ := common
  refine ⟨length_eq, fun i in_first in_second => ?_⟩
  have here := same i in_first in_second
  have first : ms[i]? = some (ms.get ⟨i, in_first⟩) := List.getElem?_eq_getElem in_first
  have second : ns[i]? = some (ns.get ⟨i, in_second⟩) := List.getElem?_eq_getElem in_second
  exact {
    here := {
      millis := here.millis
      utcOffset := here.utcOffset
      facts := here.facts
      session := ⟨i, _, _, first, second, rfl, rfl⟩
      nonempty := ⟨nonempty _ (List.mem_append_left _ (List.get_mem ..)),
        nonempty _ (List.mem_append_right _ (List.get_mem ..))⟩
      notification := fun number => ⟨i, number, _, _, first, second, rfl, rfl⟩ }
    answer := here.answer
    operation := here.operation
    direct := here.direct }

end ContentDelivery
