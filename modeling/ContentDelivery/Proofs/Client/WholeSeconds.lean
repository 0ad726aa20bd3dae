/-
ContentDelivery.Proofs.Client.WholeSeconds — configurations that were written and read serve as well.

All that is lost of a configuration on its way through JSON is the
fraction of a second in its session timeout. Nobody misses it
(`Configuration.reread_unnoticed`): expiry is judged by whole seconds, so
a client that is given what was read does what it would have done.

`wholeSeconds` takes the fractions out of a session, a client, an
operation and so on up to a run. Everything that a client does commutes
with it: the changes of a session because they ignore the fraction
(`Session.IgnoresFraction`), an operation because it is made of these
(`Client.act_wholeSeconds`), a run because it is made of operations
(`Run.laps_wholeSeconds`). Two runs whose configurations differ in
fractions only are the same without them, and there is nothing but the
clients in which the fractions could be seen.
-/
import ContentDelivery.Proofs.Client.Operations
import ContentDelivery.Proofs.Host.Configuration
import Mathlib.Data.List.Forall2
import Mathlib.Data.Option.Basic

namespace ContentDelivery

/-! ## Without fractions

Beside a timeout or a configuration, these hold what is the same with
fractions and without. -/

/-- The session without the fraction of a second in its timeout. -/
def Session.wholeSeconds (s : Session) : Session := { s with timeout := s.timeout.truncate }

def Session.Change.wholeSeconds (c : Change) : Change :=
  { c with session := c.session.wholeSeconds }

def Operation.wholeSeconds : Operation → Operation
  | .configure configuration => .configure configuration.wholeSeconds
  | operation => operation

def Moment.wholeSeconds (m : Moment) : Moment := { m with operation := m.operation.wholeSeconds }

def Client.wholeSeconds (c : Client) : Client :=
  { c with
    session := c.session.wholeSeconds
    configuration := c.configuration.map Configuration.wholeSeconds }

def Step.wholeSeconds (s : Step α) : Step α := { s with client := s.client.wholeSeconds }

def Departure.wholeSeconds (d : Departure) : Departure :=
  { d with client := d.client.wholeSeconds }

/-! ## Sessions -/

namespace Session

@[simp] theorem id_wholeSeconds (s : Session) : s.wholeSeconds.id = s.id := rfl

@[simp] theorem edgeHost_wholeSeconds (s : Session) : s.wholeSeconds.edgeHost = s.edgeHost := rfl

@[simp] theorem Change.session_wholeSeconds (c : Change) :
    c.wholeSeconds.session = c.session.wholeSeconds := rfl

/-- Expiry is judged by whole seconds. -/
@[simp] theorem isExpired_wholeSeconds (now : Int64) (s : Session) :
    s.wholeSeconds.isExpired now = s.isExpired now := rfl

theorem truncate_defaultTimeout : defaultTimeout.truncate = defaultTimeout := rfl

/-- A change that does not look at the fraction of the timeout, and leaves it as it is. -/
def IgnoresFraction (f : Session → Change) : Prop := ∀ s, f s.wholeSeconds = (f s).wholeSeconds

theorem Change.andThen_wholeSeconds {f : Session → Change} (ignores : IgnoresFraction f)
    (c : Change) : c.wholeSeconds.andThen f = (c.andThen f).wholeSeconds := by
  have later : f c.wholeSeconds.session = (f c.session).wholeSeconds := ignores c.session
  simp only [Change.andThen, later]
  rfl

theorem IgnoresFraction.andThen {f g : Session → Change} (first : IgnoresFraction f)
    (second : IgnoresFraction g) : IgnoresFraction fun s => (f s).andThen g := by
  intro s
  simp only [first s]
  exact Change.andThen_wholeSeconds second (f s)

theorem ignoresFraction_unchanged : IgnoresFraction unchanged := fun _ => rfl

theorem ignoresFraction_refresh (now : Int64) : IgnoresFraction (refresh now) := fun _ => rfl

theorem ignoresFraction_setTntId (id : Option String) : IgnoresFraction (setTntId id) :=
  fun _ => rfl

theorem ignoresFraction_setThirdPartyId (id : Option String) :
    IgnoresFraction (setThirdPartyId id) := fun _ => rfl

theorem ignoresFraction_finish : IgnoresFraction finish := fun _ => rfl

theorem ignoresFraction_restart (now : Int64) (freshId : String) :
    IgnoresFraction (restart now freshId) := fun _ => rfl

theorem ignoresFraction_setEdgeHost (host : Option String) :
    IgnoresFraction (setEdgeHost host) := by
  intro s
  unfold setEdgeHost
  rw [edgeHost_wholeSeconds]
  split <;> rfl

theorem ignoresFraction_forget : IgnoresFraction forget :=
  (((ignoresFraction_setTntId none).andThen (ignoresFraction_setThirdPartyId none)).andThen
    (ignoresFraction_setEdgeHost none)).andThen ignoresFraction_finish

theorem ignoresFraction_readEdgeHost (now : Int64) : IgnoresFraction (readEdgeHost now) := by
  intro s
  unfold readEdgeHost
  rw [isExpired_wholeSeconds]
  split
  · exact ignoresFraction_setEdgeHost none s
  · rfl

theorem ignoresFraction_readId (now : Int64) (freshId : String) :
    IgnoresFraction (readId now freshId) := by
  intro s
  unfold readId
  rw [isExpired_wholeSeconds, id_wholeSeconds]
  split
  · exact ignoresFraction_restart now freshId s
  · rfl

theorem ignoresFraction_reading (here : Surroundings) : IgnoresFraction (reading here) :=
  (ignoresFraction_readEdgeHost here.seconds).andThen
    (ignoresFraction_readId here.seconds here.freshSessionId)

theorem ignoresFraction_absorb (now : Int64) (r : DeliveryReply) :
    IgnoresFraction (absorb now r) := by
  unfold absorb
  refine ((ignoresFraction_refresh now).andThen ?_).andThen ?_
  · cases r.tntId? with
    | none => exact ignoresFraction_unchanged
    | some id => exact ignoresFraction_setTntId (some id)
  · cases r.edgeHost? with
    | none => exact ignoresFraction_unchanged
    | some host => exact ignoresFraction_setEdgeHost (some host)

end Session

/-! ## Calls -/

/-- Where a request goes does not depend on the session timeout. -/
theorem Endpoint.url?_wholeSeconds (c : Configuration) :
    Endpoint.url? c.wholeSeconds = Endpoint.url? c := rfl

namespace Client

variable (here : Surroundings) (c : Client)

/-! ## Up to the request -/

/-- Neither does whether there may be a request. -/
theorem forRequests_wholeSeconds :
    Configuration.forRequests c.wholeSeconds.configuration =
      (Configuration.forRequests c.configuration).map Configuration.wholeSeconds := by
  cases current : c.configuration with
  | none => simp [wholeSeconds, current, Configuration.forRequests, Except.map]
  | some configuration =>
    have same_code : configuration.wholeSeconds.clientCode = configuration.clientCode := rfl
    have same_privacy : configuration.wholeSeconds.privacy = configuration.privacy := rfl
    simp only [wholeSeconds, current, Option.map_some, Configuration.forRequests, same_code,
      same_privacy]
    split
    · rfl
    · split <;> rfl

theorem reports_wholeSeconds (call : Call) :
    c.wholeSeconds.reports here call = c.reports here call := by
  unfold reports
  rw [forRequests_wholeSeconds]
  cases Configuration.forRequests c.configuration <;> rfl

theorem refusal_wholeSeconds (call : Call) : c.wholeSeconds.refusal call = c.refusal call := by
  unfold refusal
  rw [forRequests_wholeSeconds]
  cases Configuration.forRequests c.configuration <;> rfl

theorem attempts_wholeSeconds (call : Call) :
    c.wholeSeconds.attempts here call = c.attempts here call := by
  have something : c.wholeSeconds.hasToSend here call = c.hasToSend here call := by
    unfold hasToSend
    rw [reports_wholeSeconds]
    rfl
  unfold attempts
  rw [something, forRequests_wholeSeconds]
  cases Configuration.forRequests c.configuration <;> rfl

theorem dispatch_wholeSeconds (selection : MboxSelection) (parameters : Option Parameters) :
    c.wholeSeconds.dispatch here selection parameters =
      (c.dispatch here selection parameters).wholeSeconds := by
  have read : c.wholeSeconds.session.reading here = (c.session.reading here).wholeSeconds :=
    Session.ignoresFraction_reading here c.session
  have same_pending : c.wholeSeconds.pending = c.pending := rfl
  unfold dispatch
  rw [forRequests_wholeSeconds]
  cases Configuration.forRequests c.configuration with
  | error failure => rfl
  | ok configuration =>
    simp only [Except.map, same_pending, Session.readEdgeHost_andThen_readId, read,
      Session.Change.session_wholeSeconds, Session.edgeHost_wholeSeconds, Session.id_wholeSeconds,
      Endpoint.url?_wholeSeconds]
    cases selection.isEmpty && c.pending.isEmpty with
    | true => rfl
    | false =>
      cases Endpoint.url? configuration (c.session.reading here).session.edgeHost
        (c.session.reading here).session.id <;> rfl

theorem begin_wholeSeconds (call : Call) :
    c.wholeSeconds.begin here call = (c.begin here call).wholeSeconds := by
  have same_reports := c.reports_wholeSeconds here call
  have same_attempts := c.attempts_wholeSeconds here call
  rcases begin_cases here call c with ⟨refused, -, begun⟩ | ⟨attempted, _, -, -, begun⟩
  · rcases begin_cases here call c.wholeSeconds with ⟨-, -, begun'⟩ | ⟨attempted', -⟩
    · rw [begun, begun', refusal_wholeSeconds]
      rfl
    · cases refused.symm.trans (same_attempts.symm.trans attempted')
  · rcases begin_cases here call c.wholeSeconds with ⟨refused', -⟩ | ⟨-, _, -, -, begun'⟩
    · cases refused'.symm.trans (same_attempts.trans attempted)
    · rw [begun, begun', same_reports, ← dispatch_wholeSeconds]
      rfl

/-! ## From the answer on -/

theorem reconcile_wholeSeconds (now : Int64) (kind : CallKind) (reply : HttpReply) (s : Session)
    (cache : Cache) :
    reconcile now kind reply s.wholeSeconds cache =
      let r := reconcile now kind reply s cache
      { r with session := r.session.wholeSeconds } := by
  unfold reconcile
  cases DeliveryReply.ofHttp? reply with
  | none => rfl
  | some r =>
    have absorbed : s.wholeSeconds.absorb now r = (s.absorb now r).wholeSeconds :=
      Session.ignoresFraction_absorb now r s
    simp only [absorbed]
    cases r.failure? <;> rfl

theorem conclude_wholeSeconds (kind : CallKind) (answer : Except Failure HttpReply) :
    c.wholeSeconds.conclude here kind answer = (c.conclude here kind answer).wholeSeconds := by
  cases answer with
  | error failure => rfl
  | ok reply =>
    have reconciled := reconcile_wholeSeconds here.seconds kind reply c.session c.cache
    simp only [conclude, wholeSeconds, reconciled]
    rfl

theorem perform_wholeSeconds (answer : Except Failure HttpReply) (call : Call) :
    c.wholeSeconds.perform here answer call = (c.perform here answer call).wholeSeconds := by
  unfold perform
  rw [begin_wholeSeconds]
  have same_request : (c.begin here call).wholeSeconds.request = (c.begin here call).request := rfl
  simp only [same_request]
  cases (c.begin here call).request with
  | error failure => rfl
  | ok request =>
    have concluded := (c.begin here call).client.conclude_wholeSeconds here call.kind answer
    have same_client : (c.begin here call).wholeSeconds.client =
      (c.begin here call).client.wholeSeconds := rfl
    simp only [same_client, concluded]
    rfl

/-! ## Other operations -/

theorem reset_wholeSeconds : c.wholeSeconds.reset = c.reset.wholeSeconds := by
  have forgotten : c.wholeSeconds.session.forget = c.session.forget.wholeSeconds :=
    Session.ignoresFraction_forget c.session
  simp only [reset, forgotten]
  rfl

theorem setThirdPartyId_wholeSeconds (id : Option String) :
    c.wholeSeconds.setThirdPartyId id = (c.setThirdPartyId id).wholeSeconds := by
  have same_privacy : c.wholeSeconds.configuration.map Configuration.privacy =
      c.configuration.map Configuration.privacy := by
    cases current : c.configuration <;> simp [wholeSeconds, current, Configuration.wholeSeconds]
  unfold setThirdPartyId
  rw [same_privacy]
  split <;> rfl

theorem reconfigured_wholeSeconds (configuration : Configuration) :
    c.wholeSeconds.reconfigured configuration.wholeSeconds =
      (c.reconfigured configuration).wholeSeconds := by
  have same_change : c.wholeSeconds.changesClientCode configuration.wholeSeconds =
      c.changesClientCode configuration := by
    cases current : c.configuration <;>
      simp [changesClientCode, wholeSeconds, current, Configuration.wholeSeconds]
  have timeout : configuration.wholeSeconds.sessionTimeout.getD Session.defaultTimeout =
      (configuration.sessionTimeout.getD Session.defaultTimeout).truncate := by
    cases given : configuration.sessionTimeout with
    | none => simpa [Configuration.wholeSeconds, given] using Session.truncate_defaultTimeout.symm
    | some timeout => simp [Configuration.wholeSeconds, given]
  have cleared : c.wholeSeconds.session.setEdgeHost none =
      (c.session.setEdgeHost none).wholeSeconds :=
    Session.ignoresFraction_setEdgeHost none c.session
  unfold reconfigured
  rw [same_change, timeout, cleared]
  split <;> rfl

theorem configure_wholeSeconds (configuration : Configuration) :
    c.wholeSeconds.configure configuration.wholeSeconds =
      (c.configure configuration).wholeSeconds := by
  have changed := c.reconfigured_wholeSeconds configuration
  by_cases optedOut : configuration.privacy = .optedOut
  · have optedOut' : configuration.wholeSeconds.privacy = .optedOut := optedOut
    rw [configure_of_optedOut optedOut, configure_of_optedOut optedOut', changed,
      Session.Change.andThen_wholeSeconds Session.ignoresFraction_forget]
    rfl
  · have not_optedOut : configuration.wholeSeconds.privacy ≠ .optedOut := optedOut
    rw [configure_of_not_optedOut optedOut, configure_of_not_optedOut not_optedOut, changed]
    rfl

theorem handle_wholeSeconds (answer : Except Failure HttpReply) (operation : Operation) :
    c.wholeSeconds.handle here answer operation.wholeSeconds =
      (c.handle here answer operation).wholeSeconds := by
  cases operation with
  | call call =>
    simp only [handle, Operation.wholeSeconds, perform_wholeSeconds]
    rfl
  | reset =>
    simp only [handle, Operation.wholeSeconds, reset_wholeSeconds]
    rfl
  | setThirdPartyId id =>
    simp only [handle, Operation.wholeSeconds, setThirdPartyId_wholeSeconds]
    rfl
  | getIdentifiers => rfl
  | configure configuration =>
    simp only [handle, Operation.wholeSeconds, configure_wholeSeconds]
    rfl

theorem direct_wholeSeconds (answer : Except Failure HttpReply) (operation : Operation) :
    c.wholeSeconds.direct here answer operation.wholeSeconds =
      (c.direct here answer operation).wholeSeconds := by
  cases operation with
  | call call =>
    simp only [direct, Operation.wholeSeconds, perform_wholeSeconds]
    rfl
  | reset =>
    simp only [direct, Operation.wholeSeconds, reset_wholeSeconds]
    rfl
  | setThirdPartyId id =>
    simp only [direct, Operation.wholeSeconds, setThirdPartyId_wholeSeconds]
    rfl
  | getIdentifiers => rfl
  | configure configuration =>
    simp only [direct, Operation.wholeSeconds, configure_wholeSeconds]
    rfl

/-- **What an operation does has no part in fractions**, and they have none in it. -/
theorem act_wholeSeconds (m : Moment) :
    c.wholeSeconds.act m.wholeSeconds = (c.act m).wholeSeconds := by
  unfold act
  by_cases is_direct : m.direct = true
  · have is_direct' : m.wholeSeconds.direct = true := is_direct
    rw [if_pos is_direct, if_pos is_direct']
    exact c.direct_wholeSeconds m.here m.answer m.operation
  · have not_direct : ¬ m.wholeSeconds.direct = true := is_direct
    rw [if_neg is_direct, if_neg not_direct]
    have handled := c.handle_wholeSeconds m.here m.answer m.operation
    simp only [Moment.wholeSeconds, handled]
    rfl

end Client

/-! ## Runs -/

def Lap.wholeSeconds (l : Lap) : Lap where
  before := l.before.wholeSeconds
  moment := l.moment.wholeSeconds

theorem Lap.step_wholeSeconds (l : Lap) : l.wholeSeconds.step = l.step.wholeSeconds :=
  l.before.act_wholeSeconds l.moment

theorem Client.laps_wholeSeconds (moments : List Moment) (c : Client) :
    c.wholeSeconds.laps (moments.map Moment.wholeSeconds) =
      (c.laps moments).map Lap.wholeSeconds := by
  induction moments generalizing c with
  | nil => rfl
  | cons m moments ih =>
    rw [List.map_cons, laps, laps, act_wholeSeconds, List.map_cons, ← ih]
    rfl

/-- The timeout of a session that was only loaded has no fraction. -/
theorem Client.start_wholeSeconds (store : KeyValueStore σ) (s : σ)
    (configuration : Option Configuration) :
    start store s (configuration.map Configuration.wholeSeconds) =
      (start store s configuration).wholeSeconds := by
  cases configuration with
  | none => rfl
  | some configuration => exact configure_wholeSeconds { session := .load store s } configuration

/-- The run where no session timeout has a fraction. -/
def Run.wholeSeconds (r : Run σ) : Run σ :=
  { r with
    configuration := r.configuration.map Configuration.wholeSeconds
    moments := r.moments.map Moment.wholeSeconds }

namespace Run

variable (r : Run σ)

theorem start_wholeSeconds : r.wholeSeconds.start = r.start.wholeSeconds :=
  Client.start_wholeSeconds r.store r.contents r.configuration

theorem laps_wholeSeconds : r.wholeSeconds.laps = r.laps.map Lap.wholeSeconds := by
  have started : r.wholeSeconds.start.client = r.start.client.wholeSeconds :=
    congrArg Step.client r.start_wholeSeconds
  unfold laps
  rw [started]
  exact Client.laps_wholeSeconds r.moments r.start.client

theorem writes_wholeSeconds : r.wholeSeconds.writes = r.writes := by
  have of_start : r.wholeSeconds.start.writes = r.start.writes :=
    congrArg (·.writes) r.start_wholeSeconds
  have of_lap (l : Lap) : l.wholeSeconds.step.writes = l.step.writes :=
    congrArg (·.writes) l.step_wholeSeconds
  simp only [writes, of_start, laps_wholeSeconds, List.flatMap_map, of_lap]

theorem stored_wholeSeconds : r.wholeSeconds.stored = r.stored := by
  unfold stored
  rw [writes_wholeSeconds]
  rfl

end Run

/-! ## Configurations that were written and read -/

/-- The same configuration, or what is read where it was written. -/
inductive Configuration.IsReread (c : Configuration) : Configuration → Prop
  | same : IsReread c c
  | read {d : Configuration} (exact : c.networkTimeout.IsExact) (read : ofJson? c.toJson = some d) :
    IsReread c d

inductive Operation.IsReread : Operation → Operation → Prop
  | same (operation : Operation) : IsReread operation operation
  | configure {c d : Configuration} (reread : c.IsReread d) :
    IsReread (.configure c) (.configure d)

/-- The same operation at the same moment, where a configuration may have been written and read. -/
structure Moment.IsReread (m n : Moment) : Prop where
  here : n.here = m.here
  answer : n.answer = m.answer
  operation : m.operation.IsReread n.operation
  direct : n.direct = m.direct

/-- The same run, where some of the configurations were written and read. -/
structure Run.IsReread (r q : Run σ) : Prop where
  store : q.store = r.store
  contents : q.contents = r.contents
  configuration : Option.Rel Configuration.IsReread r.configuration q.configuration
  moments : List.Forall₂ Moment.IsReread r.moments q.moments

/-- The same deed of the same client, but for the fractions of its session timeouts. -/
structure Step.SameButFraction (s t : Step α) : Prop where
  client : t.client.wholeSeconds = s.client.wholeSeconds
  result : t.result = s.result
  request : t.request = s.request
  events : t.events = s.events
  writes : t.writes = s.writes

theorem Step.sameButFraction_of_wholeSeconds {s t : Step α}
    (same : t.wholeSeconds = s.wholeSeconds) : s.SameButFraction t where
  client := congrArg (·.client) same
  result := congrArg (·.result) same
  request := congrArg (·.request) same
  events := congrArg (·.events) same
  writes := congrArg (·.writes) same

theorem Configuration.wholeSeconds_wholeSeconds (c : Configuration) :
    c.wholeSeconds.wholeSeconds = c.wholeSeconds := by
  cases timeout : c.sessionTimeout <;>
    simp [wholeSeconds, timeout, Duration.truncate, Duration.ofSeconds]

theorem Configuration.IsReread.wholeSeconds_eq {c d : Configuration} (reread : c.IsReread d) :
    d.wholeSeconds = c.wholeSeconds := by
  cases reread with
  | same => rfl
  | read exact read =>
    obtain rfl : c.wholeSeconds = d := Option.some.inj ((ofJson?_toJson exact).symm.trans read)
    exact c.wholeSeconds_wholeSeconds

theorem Operation.IsReread.wholeSeconds_eq {o p : Operation} (reread : o.IsReread p) :
    p.wholeSeconds = o.wholeSeconds := by
  cases reread with
  | same => rfl
  | configure reread => exact congrArg Operation.configure reread.wholeSeconds_eq

theorem Moment.IsReread.wholeSeconds_eq {m n : Moment} (reread : m.IsReread n) :
    n.wholeSeconds = m.wholeSeconds := by
  unfold Moment.wholeSeconds
  rw [reread.here, reread.answer, reread.direct, reread.operation.wholeSeconds_eq]

theorem Run.IsReread.wholeSeconds_eq {r q : Run σ} (reread : r.IsReread q) :
    q.wholeSeconds = r.wholeSeconds := by
  have of_start : ∀ {c d : Option Configuration}, Option.Rel Configuration.IsReread c d →
      d.map Configuration.wholeSeconds = c.map Configuration.wholeSeconds := by
    rintro _ _ (reread | _)
    · exact congrArg some reread.wholeSeconds_eq
    · rfl
  have of_moments : ∀ {ms ns : List Moment}, List.Forall₂ Moment.IsReread ms ns →
      ns.map Moment.wholeSeconds = ms.map Moment.wholeSeconds := by
    intro ms ns reread
    induction reread with
    | nil => rfl
    | cons first _ ih => rw [List.map_cons, List.map_cons, first.wholeSeconds_eq, ih]
  unfold Run.wholeSeconds
  rw [reread.store, reread.contents, of_start reread.configuration, of_moments reread.moments]

namespace Configuration

/-- **A configuration that was written and read serves as well.** If its network timeout is a whole
number of seconds below `2 ^ 53`, it is read as it was, with the session timeout cut to whole
seconds. A session is expired under the cut timeout whenever it is expired under the other. And in a
run where configurations were written and read, from the start on or at any later moment, any number
of them, each operation comes to the same result, request, events and writes as where they were not,
the store ends up the same, and the clients differ in nothing but the fractions. -/
theorem reread_unnoticed :
    (∀ c : Configuration, c.networkTimeout.IsExact →
      ofJson? c.toJson =
        some { c with sessionTimeout := c.sessionTimeout.map Duration.truncate }) ∧
    (∀ (d : Duration) (s : Session) (now : Int64),
      (s.setTimeout d.truncate).isExpired now = (s.setTimeout d).isExpired now) ∧
    ∀ {r q : Run σ}, r.IsReread q →
      r.start.SameButFraction q.start ∧
      List.Forall₂ (fun k l => k.step.SameButFraction l.step) r.laps q.laps ∧
      q.stored = r.stored := by
  refine ⟨fun c exact => ofJson?_toJson exact, fun d s now => rfl, fun {r q} reread => ?_⟩
  have same := reread.wholeSeconds_eq
  refine ⟨Step.sameButFraction_of_wholeSeconds ?_, ?_, ?_⟩
  · rw [← q.start_wholeSeconds, same, r.start_wholeSeconds]
  · have laps_eq : List.Forall₂ Eq (r.laps.map Lap.wholeSeconds) (q.laps.map Lap.wholeSeconds) := by
      rw [← r.laps_wholeSeconds, ← q.laps_wholeSeconds, same]
      exact List.forall₂_refl _
    rw [List.forall₂_map_left_iff, List.forall₂_map_right_iff] at laps_eq
    refine laps_eq.imp fun k l same_lap => Step.sameButFraction_of_wholeSeconds ?_
    rw [← k.step_wholeSeconds, ← l.step_wholeSeconds, same_lap]
  · rw [← q.stored_wholeSeconds, same, r.stored_wholeSeconds]

/-- A client whose session timeout was a second and a half, and is a second where it was read. -/
theorem reread_unnoticed_after_fraction :
    let c : Configuration :=
      { clientCode := "acme", privacy := .optedIn, networkTimeout := .ofSeconds 5
        sessionTimeout := some (.ofMillis 1500) }
    let d : Configuration := { c with sessionTimeout := some (.ofSeconds 1) }
    let moment (millis : Int64) (operation : Operation) : Moment :=
      { here :=
          { millis, utcOffset := 0, freshSessionId := "one"
            freshNotificationId := fun _ => "report", facts := {} }
        answer := .ok { status := 200, body := "\x7b\x7d".toUTF8 }
        operation, direct := true }
    let ask : Operation := .call (.execute [{ name := "box" }] none)
    let r : Run Storage :=
      { store := .memory, contents := ∅, configuration := none
        moments := [moment 0 (.configure c), moment 5000 ask, moment 6999 ask] }
    let q : Run Storage :=
      { r with moments := [moment 0 (.configure d), moment 5000 ask, moment 6999 ask] }
    c.networkTimeout.IsExact ∧ ofJson? c.toJson = some d ∧ r.IsReread q ∧
      r.start.SameButFraction q.start ∧
      List.Forall₂ (fun k l => k.step.SameButFraction l.step) r.laps q.laps ∧
      q.stored = r.stored := by
  intro c d moment ask r q
  have exact : c.networkTimeout.IsExact := ⟨rfl, by decide⟩
  have read : ofJson? c.toJson = some d := (reread_unnoticed (σ := Storage)).1 c exact
  have same (millis : Int64) : (moment millis ask).IsReread (moment millis ask) :=
    ⟨rfl, rfl, .same ask, rfl⟩
  have reread : r.IsReread q := {
    store := rfl
    contents := rfl
    configuration := .none
    moments := .cons ⟨rfl, rfl, .configure (.read exact read), rfl⟩
      (.cons (same 5000) (.cons (same 6999) .nil)) }
  exact ⟨exact, read, reread, reread_unnoticed.2.2 reread⟩

end Configuration

end ContentDelivery
