/-
ContentDelivery.Proofs.Client.Continuity — how long a session goes on.

`session_continues`: the id of a session changes in two ways only. It is
emptied when the visitor is forgotten, and it is replaced by a new one at
an attempt that finds no id or an expired session (`Lap.generated?`). So
two requests belong to one session exactly when nothing between them
broke it (`Lap.breaks`) and it was not expired at the second one. Expiry
is judged by the second that was recorded last: when the session was
loaded, when it was started, or when a reply was read.

An attempt is a call that is allowed and has something to send; others
do not read the session. That a broken session never comes back rests on
ids being generated once only: the id of a client is the one that it
started with or one generated since, and after a break it is one
generated after that (`id_after_of_broken`).
-/
import ContentDelivery.Proofs.Client.EdgeHost
import ContentDelivery.Proofs.Client.Persistence
import ContentDelivery.Proofs.Url.Query

namespace ContentDelivery

/-! ## Sessions -/

namespace Session

/-- The edge host is read before, but has no say in whether a session is started. -/
theorem reading_of_starts {here : Surroundings} {s : Session} (starts : s.startsAnew here = true) :
    s.reading here =
      (s.readEdgeHost here.seconds).andThen (restart here.seconds here.freshSessionId) := by
  unfold startsAnew at starts
  simp only [reading, Change.andThen, readId, session_readEdgeHost, isExpired_with_edgeHost, starts,
    if_true]

theorem id_reading (here : Surroundings) (s : Session) :
    (s.reading here).session.id = if s.startsAnew here then here.freshSessionId else s.id := by
  cases starts : s.startsAnew here with
  | false => simp [reading_of_goes_on starts]
  | true => simp [reading_of_starts starts, restart, refresh]

theorem startedAt_reading (here : Surroundings) (s : Session) :
    (s.reading here).session.startedAt =
      if s.startsAnew here then some here.seconds else s.startedAt := by
  cases starts : s.startsAnew here with
  | false => simp [reading_of_goes_on starts]
  | true => simp [reading_of_starts starts, restart, refresh]

theorem timeout_reading (here : Surroundings) (s : Session) :
    (s.reading here).session.timeout = s.timeout := by
  cases starts : s.startsAnew here with
  | false => simp [reading_of_goes_on starts]
  | true => simp [reading_of_starts starts, restart, refresh]

/-- A new session is written with the second at which it starts. -/
theorem writes_reading_of_starts {here : Surroundings} {s : Session}
    (starts : s.startsAnew here = true) :
    (s.reading here).writes =
      (s.readEdgeHost here.seconds).writes ++
        [.setString StoreKey.sessionId here.freshSessionId,
          .setInteger StoreKey.sessionTimestamp here.seconds] := by
  rw [reading_of_starts starts]
  rfl

theorem startedAt_absorb (now : Int64) (r : DeliveryReply) (s : Session) :
    (s.absorb now r).session.startedAt = some now := by
  unfold absorb
  cases r.tntId? <;> cases r.edgeHost? <;> simp [refresh, setTntId]

theorem timeout_absorb (now : Int64) (r : DeliveryReply) (s : Session) :
    (s.absorb now r).session.timeout = s.timeout := by
  unfold absorb
  cases r.tntId? <;> cases r.edgeHost? <;> simp [refresh, setTntId]

theorem id_learn (now : Int64) (answer : Except Failure HttpReply) (s : Session) :
    (s.learn now answer).session.id = s.id := by
  unfold learn
  cases readable? answer <;> simp

theorem startedAt_learn (now : Int64) (answer : Except Failure HttpReply) (s : Session) :
    (s.learn now answer).session.startedAt =
      if (readable? answer).isSome then some now else s.startedAt := by
  unfold learn
  cases readable? answer <;> simp [startedAt_absorb]

theorem timeout_learn (now : Int64) (answer : Except Failure HttpReply) (s : Session) :
    (s.learn now answer).session.timeout = s.timeout := by
  unfold learn
  cases readable? answer <;> simp [timeout_absorb]

end Session

/-! ## Laps -/

namespace Lap

/-- Whether the operation is a call that is allowed and has something to send. -/
def attempts (l : Lap) : Bool :=
  match l.moment.operation with
  | .call call => l.before.attempts l.moment.here call
  | .reset | .setThirdPartyId _ | .getIdentifiers | .configure _ => false

/-- Whether the session is expired when the lap begins. -/
def expired (l : Lap) : Bool := l.before.session.isExpired l.moment.here.seconds

/-- Whether a session that goes on before the lap does not go on after it. -/
def breaks (l : Lap) : Bool := l.moment.operation.forgets || (l.attempts && l.expired)

/-- The id of the session that the lap starts, if it starts one. -/
def generated? (l : Lap) : Option String :=
  if l.attempts && l.startsSession then some l.moment.here.freshSessionId else none

/-- Whether there was a request, and a reply to it that can be read. -/
def heard (l : Lap) : Bool := l.step.request.isSome && (Session.readable? l.moment.answer).isSome

/-- The second that the lap records as that of the last activity, if it records one. -/
def recorded? (l : Lap) : Option Int64 :=
  if l.generated?.isSome || l.heard then some l.moment.here.seconds else none

theorem startsSession_iff {l : Lap} :
    l.startsSession = true ↔ l.before.session.id = "" ∨ l.expired = true := by
  simp [startsSession, Session.startsAnew, expired]

theorem generated?_eq_some_iff {l : Lap} {id : String} :
    l.generated? = some id ↔
      l.attempts = true ∧ l.startsSession = true ∧ l.moment.here.freshSessionId = id := by
  simp [generated?, and_assoc]

theorem attempts_of_call {l : Lap} {call : Call} (op : l.moment.operation = .call call) :
    l.attempts = l.before.attempts l.moment.here call := by
  simp [attempts, op]

theorem not_attempts_of_not_call {l : Lap} (not_call : ∀ call, l.moment.operation ≠ .call call) :
    l.attempts = false := by
  unfold attempts
  split
  · next call op => exact absurd op (not_call call)
  all_goals rfl

theorem not_forgets_of_attempts {l : Lap} (attempts : l.attempts = true) :
    l.moment.operation.forgets = false := by
  unfold Lap.attempts at attempts
  split at attempts
  · next op => rw [op]; rfl
  all_goals cases attempts

theorem attempts_of_request {l : Lap} {request : HttpRequest} (h : l.step.request = some request) :
    l.attempts = true := by
  obtain ⟨call, _, op, sent⟩ := Client.exists_sent_of_request h
  rw [attempts_of_call op]
  exact sent.attempted

theorem generated?_of_attempts {l : Lap} (attempts : l.attempts = true) :
    l.generated? = if l.startsSession then some l.moment.here.freshSessionId else none := by
  simp [generated?, attempts]

theorem generated?_of_not_attempts {l : Lap} (not_attempts : l.attempts = false) :
    l.generated? = none := by
  simp [generated?, not_attempts]

theorem not_heard_of_no_request {l : Lap} (h : l.step.request = none) : l.heard = false := by
  simp [heard, h]

/-- The session's id that an attempt reads: that of the session it starts, or the one there is. -/
theorem sessionId_of_attempts {l : Lap} (attempts : l.attempts = true) :
    l.sessionId = l.generated?.getD l.before.session.id := by
  unfold sessionId asking
  rw [Session.id_reading, generated?_of_attempts attempts]
  unfold startsSession
  cases l.before.session.startsAnew l.moment.here <;> rfl

end Lap

/-! ## What a lap does to the session -/

namespace Client

/-- Another third-party id is all that changes. -/
theorem session_setThirdPartyId (id : Option String) (c : Client) :
    ∃ thirdPartyId, (c.setThirdPartyId id).client.session = { c.session with thirdPartyId } := by
  unfold setThirdPartyId
  split
  · exact ⟨c.session.thirdPartyId, rfl⟩
  · exact ⟨nonempty? id, rfl⟩

@[simp] theorem session_reconfigured (configuration : Configuration) (c : Client) :
    (c.reconfigured configuration).session =
      { c.session with
        edgeHost := if c.changesClientCode configuration then none else c.session.edgeHost
        timeout := configuration.sessionTimeout.getD Session.defaultTimeout } := by
  unfold reconfigured
  cases c.changesClientCode configuration <;> simp [Session.setTimeout, nonempty?_none]

end Client

namespace Lap

/-- The session after the visitor was forgotten. -/
structure Forgot (l : Lap) : Prop where
  forgets : l.moment.operation.forgets = true
  not_attempted : l.attempts = false
  not_heard : l.heard = false
  id : l.step.client.session.id = ""
  startedAt : l.step.client.session.startedAt = some 0

/-- The session after an attempt: as it was read, with what was learned from a reply. -/
structure Attempted (l : Lap) : Prop where
  remembers : l.moment.operation.forgets = false
  attempted : l.attempts = true
  id : l.step.client.session.id = l.asking.id
  startedAt : l.step.client.session.startedAt =
    if l.heard then some l.moment.here.seconds else l.asking.startedAt

/-- The session after any other lap goes on as it was. -/
structure Passed (l : Lap) : Prop where
  remembers : l.moment.operation.forgets = false
  not_attempted : l.attempts = false
  not_heard : l.heard = false
  id : l.step.client.session.id = l.before.session.id
  startedAt : l.step.client.session.startedAt = l.before.session.startedAt

theorem session_cases_of_call {l : Lap} {call : Call} (op : l.moment.operation = .call call) :
    l.Attempted ∨ l.Passed := by
  have remembers : l.moment.operation.forgets = false := by rw [op]; rfl
  have attempts_eq := attempts_of_call op
  have client_eq : l.step.client = _ := Client.client_act_call op l.before
  have request_eq : l.step.request = _ := Client.request_act_call op l.before
  rcases Client.perform_cases l.moment.here l.moment.answer call l.before with refused |
    ⟨_, stranded⟩ | ⟨_, request, sent⟩
  · right
    have same := client_eq.trans refused.client
    exact {
      remembers
      not_attempted := attempts_eq.trans refused.not_attempted
      not_heard := not_heard_of_no_request (request_eq.trans refused.request)
      id := by rw [same]
      startedAt := by rw [same] }
  · left
    have not_heard := not_heard_of_no_request (request_eq.trans stranded.request)
    have session_eq : l.step.client.session = l.asking :=
      congrArg Client.session (client_eq.trans stranded.client)
    exact {
      remembers
      attempted := attempts_eq.trans stranded.attempted
      id := by rw [session_eq]
      startedAt := by simp [session_eq, not_heard] }
  · left
    have session_eq : l.step.client.session =
        (l.asking.learn l.moment.here.seconds l.moment.answer).session :=
      (congrArg Client.session client_eq).trans sent.session
    have heard_eq : l.heard = (Session.readable? l.moment.answer).isSome := by
      simp [heard, request_eq.trans sent.request]
    exact {
      remembers
      attempted := attempts_eq.trans sent.attempted
      id := by rw [session_eq, Session.id_learn]
      startedAt := by rw [session_eq, Session.startedAt_learn, heard_eq] }

theorem session_cases_of_not_call {l : Lap} (not_call : ∀ call, l.moment.operation ≠ .call call) :
    l.Forgot ∨ l.Passed := by
  have not_attempted := not_attempts_of_not_call not_call
  have not_heard : l.heard = false :=
    not_heard_of_no_request (Client.request_act_of_not_call not_call l.before)
  cases op : l.moment.operation with
  | call call => exact absurd op (not_call call)
  | reset =>
    left
    have client_eq : l.step.client = l.before.reset.client := Client.client_act_of op l.before
    have session_eq : l.step.client.session = l.before.session.forget.session :=
      congrArg Client.session client_eq
    exact {
      forgets := by rw [op]; rfl
      not_attempted, not_heard
      id := by simp [session_eq]
      startedAt := by simp [session_eq] }
  | setThirdPartyId id =>
    right
    have client_eq : l.step.client = (l.before.setThirdPartyId id).client :=
      Client.client_act_of op l.before
    obtain ⟨_, session_eq⟩ := l.before.session_setThirdPartyId id
    exact {
      remembers := by rw [op]; rfl
      not_attempted, not_heard
      id := by rw [client_eq, session_eq]
      startedAt := by rw [client_eq, session_eq] }
  | getIdentifiers =>
    right
    have client_eq : l.step.client = l.before := Client.client_act_of op l.before
    exact {
      remembers := by rw [op]; rfl
      not_attempted, not_heard
      id := by rw [client_eq]
      startedAt := by rw [client_eq] }
  | configure configuration =>
    have client_eq : l.step.client = (l.before.configure configuration).client :=
      Client.client_act_of op l.before
    by_cases optedOut : configuration.privacy = .optedOut
    · left
      rw [Client.configure_of_optedOut optedOut] at client_eq
      exact {
        forgets := by simp [op, Operation.forgets, optedOut]
        not_attempted, not_heard
        id := by simp [client_eq]
        startedAt := by simp [client_eq] }
    · right
      rw [Client.configure_of_not_optedOut optedOut] at client_eq
      exact {
        remembers := by simp [op, Operation.forgets, optedOut]
        not_attempted, not_heard
        id := by simp [client_eq]
        startedAt := by simp [client_eq] }

/-- **What a lap does to the session**: it is forgotten, attempted or passed by. -/
theorem session_cases (l : Lap) : l.Forgot ∨ l.Attempted ∨ l.Passed := by
  by_cases is_call : ∃ call, l.moment.operation = .call call
  · obtain ⟨call, op⟩ := is_call
    exact .inr (session_cases_of_call op)
  · exact (session_cases_of_not_call (not_exists.mp is_call)).imp_right .inr

/-- The id is emptied, replaced by a new one, or stays. -/
theorem id_step (l : Lap) :
    l.step.client.session.id =
      if l.moment.operation.forgets then "" else l.generated?.getD l.before.session.id := by
  rcases l.session_cases with forgot | attempted | passed
  · rw [forgot.id, if_pos forgot.forgets]
  · rw [attempted.id, attempted.remembers, ← sessionId_of_attempts attempted.attempted]
    rfl
  · rw [passed.id, passed.remembers, generated?_of_not_attempts passed.not_attempted]
    rfl

/-- The second of the last activity is set back, recorded, or stays. -/
theorem startedAt_step (l : Lap) :
    l.step.client.session.startedAt =
      if l.moment.operation.forgets then some 0 else l.recorded?.or l.before.session.startedAt := by
  rcases l.session_cases with forgot | attempted | passed
  · rw [forgot.startedAt, if_pos forgot.forgets]
  · rw [attempted.startedAt, attempted.remembers, recorded?,
      generated?_of_attempts attempted.attempted, asking, Session.startedAt_reading]
    unfold startsSession
    cases l.heard <;> cases l.before.session.startsAnew l.moment.here <;> rfl
  · rw [passed.startedAt, passed.remembers, recorded?, passed.not_heard,
      generated?_of_not_attempts passed.not_attempted]
    rfl

/-- An attempt leaves the session's id that it read. -/
theorem id_of_attempts {l : Lap} (attempts : l.attempts = true) :
    l.step.client.session.id = l.sessionId := by
  rw [id_step, not_forgets_of_attempts attempts, sessionId_of_attempts attempts]
  rfl

/-- A new id is written together with the second at which the session starts. -/
theorem writes_of_generated? {l : Lap} {id : String} (generated : l.generated? = some id) :
    [.setString StoreKey.sessionId id,
      .setInteger StoreKey.sessionTimestamp l.moment.here.seconds] <:+: l.step.writes := by
  obtain ⟨attempts, starts, rfl⟩ := generated?_eq_some_iff.mp generated
  have is_call : ∃ call, l.moment.operation = .call call := by
    by_contra not_call
    cases (not_attempts_of_not_call (not_exists.mp not_call)).symm.trans attempts
  obtain ⟨call, op⟩ := is_call
  have read := Session.writes_reading_of_starts starts
  have writes_eq : l.step.writes = _ := Client.writes_act_call op l.before
  rw [writes_eq]
  rcases Client.perform_cases l.moment.here l.moment.answer call l.before with refused |
    ⟨_, stranded⟩ | ⟨_, _, sent⟩
  · cases refused.not_attempted.symm.trans ((attempts_of_call op).symm.trans attempts)
  · rw [stranded.writes, read]
    exact (List.suffix_append _ _).isInfix
  · rw [sent.writes, Session.Change.andThen_writes, read]
    exact ⟨_, _, rfl⟩

/-- A session that goes on before an attempt does so after it, unless it is expired. -/
theorem generated?_eq_none {l : Lap} (has_id : l.before.session.id ≠ "")
    (unbroken : l.breaks = false) : l.generated? = none := by
  obtain ⟨-, not_both⟩ := Bool.or_eq_false_iff.mp unbroken
  cases attempts : l.attempts with
  | false => exact generated?_of_not_attempts attempts
  | true =>
    have going : l.expired = false := by simpa [attempts] using not_both
    have not_starts : l.startsSession = false := by
      by_contra starts
      rcases startsSession_iff.mp (by simpa using starts) with no_id | lapsed
      · exact has_id no_id
      · cases going.symm.trans lapsed
    simp [generated?, not_starts]

theorem generated?_of_breaks {l : Lap} (breaks : l.breaks = true)
    (remembers : l.moment.operation.forgets = false) :
    l.generated? = some l.moment.here.freshSessionId := by
  have broken : l.attempts = true ∧ l.expired = true := by
    simpa [Lap.breaks, remembers] using breaks
  exact generated?_eq_some_iff.mpr ⟨broken.1, startsSession_iff.mpr (.inr broken.2), rfl⟩

end Lap

/-! ## Stretches of a run -/

/-- The ids of the sessions that some laps started. -/
def generatedIds (laps : List Lap) : List String := laps.filterMap Lap.generated?

theorem generatedIds_append (first second : List Lap) :
    generatedIds (first ++ second) = generatedIds first ++ generatedIds second :=
  List.filterMap_append

theorem mem_generatedIds_singleton {l : Lap} {id : String} :
    id ∈ generatedIds [l] ↔ l.generated? = some id := by
  simp [generatedIds]

namespace Client

/-- What the last operation of a stretch does to the id. -/
theorem id_after_concat (moments : List Moment) (m : Moment) (c : Client) :
    let l : Lap := { before := c.after moments, moment := m }
    (c.after (moments ++ [m])).session.id =
      if m.operation.forgets then "" else l.generated?.getD (c.after moments).session.id := by
  intro l
  rw [after_concat]
  exact l.id_step

/-- The id of a session is the one there was, or one generated since, or empty. -/
theorem id_after_mem (moments : List Moment) (c : Client) :
    (c.after moments).session.id = "" ∨
      (c.after moments).session.id ∈ c.session.id :: generatedIds (c.laps moments) := by
  induction moments using List.reverseRecOn with
  | nil => exact .inr List.mem_cons_self
  | append_singleton moments m ih =>
    rw [id_after_concat, laps_concat, generatedIds_append, ← List.cons_append]
    cases m.operation.forgets with
    | true => exact .inl rfl
    | false =>
      cases generated : Lap.generated? { before := c.after moments, moment := m } with
      | none => exact ih.imp_right (List.mem_append_left _)
      | some id =>
        exact .inr (List.mem_append_right _ (mem_generatedIds_singleton.mpr generated))

/-- A session goes on as long as nothing breaks it. -/
theorem id_after_of_unbroken {moments : List Moment} {c : Client} (has_id : c.session.id ≠ "")
    (unbroken : ∀ l ∈ c.laps moments, l.breaks = false) :
    (c.after moments).session.id = c.session.id := by
  induction moments using List.reverseRecOn with
  | nil => rfl
  | append_singleton moments m ih =>
    rw [laps_concat] at unbroken
    have before := ih fun l among => unbroken l (List.mem_append_left _ among)
    have last := unbroken { before := c.after moments, moment := m } (by simp)
    have remembers := (Bool.or_eq_false_iff.mp last).1
    have none_generated := Lap.generated?_eq_none (before ▸ has_id) last
    rw [id_after_concat, none_generated, ← before]
    exact if_neg (by simpa using remembers)

/-- A session that was broken does not come back: what goes on is a later one, if any. -/
theorem id_after_of_broken {moments : List Moment} {c : Client}
    (broken : ∃ l ∈ c.laps moments, l.breaks = true) :
    (c.after moments).session.id = "" ∨
      (c.after moments).session.id ∈ generatedIds (c.laps moments) := by
  induction moments using List.reverseRecOn with
  | nil => simp [laps] at broken
  | append_singleton moments m ih =>
    rw [id_after_concat, laps_concat, generatedIds_append]
    cases remembers : m.operation.forgets with
    | true => exact .inl rfl
    | false =>
      cases generated : Lap.generated? { before := c.after moments, moment := m } with
      | some id => exact .inr (List.mem_append_right _ (mem_generatedIds_singleton.mpr generated))
      | none =>
        -- The last lap did not break it, so an earlier one did.
        obtain ⟨l, among, breaks⟩ := broken
        rw [laps_concat] at among
        rcases List.mem_append.mp among with earlier | last
        · exact (ih ⟨l, earlier, breaks⟩).imp_right (List.mem_append_left _)
        · obtain rfl := List.mem_singleton.mp last
          cases generated.symm.trans (Lap.generated?_of_breaks breaks remembers)

end Client

/-! ## Timeouts -/

/-- The timeout of the configuration in effect. -/
def Client.timeoutInEffect (c : Client) : Duration :=
  (c.configuration.bind Configuration.sessionTimeout).getD Session.defaultTimeout

theorem Client.timeout_perform (here : Surroundings) (answer : Except Failure HttpReply)
    (call : Call) (c : Client) :
    (c.perform here answer call).client.session.timeout = c.session.timeout := by
  rcases perform_cases here answer call c with refused | ⟨_, stranded⟩ | ⟨_, _, sent⟩
  · rw [refused.client]
  · rw [stranded.client]
    exact Session.timeout_reading here c.session
  · rw [sent.session, Session.Change.andThen_session, Session.timeout_learn,
      Session.timeout_reading]

theorem Client.timeout_configure (configuration : Configuration) (c : Client) :
    (c.configure configuration).client.session.timeout =
      configuration.sessionTimeout.getD Session.defaultTimeout := by
  by_cases optedOut : configuration.privacy = .optedOut
  · simp [configure_of_optedOut optedOut]
  · simp [configure_of_not_optedOut optedOut]

/-- Only a configuration changes the timeout. -/
theorem Client.timeout_act (m : Moment) (c : Client) :
    (c.act m).client.session.timeout =
      match m.operation with
      | .configure configuration => configuration.sessionTimeout.getD Session.defaultTimeout
      | .call _ | .reset | .setThirdPartyId _ | .getIdentifiers => c.session.timeout := by
  rw [client_act]
  cases m.operation with
  | call call => exact c.timeout_perform m.here m.answer call
  | reset =>
    have forgotten : (c.handle m.here m.answer .reset).client.session = c.session.forget.session :=
      rfl
    rw [forgotten, Session.session_forget]
  | setThirdPartyId id =>
    obtain ⟨_, session_eq⟩ := c.session_setThirdPartyId id
    have kept : (c.setThirdPartyId id).client.session.timeout = c.session.timeout := by
      rw [session_eq]
    exact kept
  | getIdentifiers => rfl
  | configure configuration => exact c.timeout_configure configuration

theorem Client.timeout_start (store : KeyValueStore σ) (s : σ)
    (configuration : Option Configuration) :
    (start store s configuration).client.session.timeout =
      (start store s configuration).client.timeoutInEffect := by
  cases configuration with
  | none => rfl
  | some configuration =>
    simp only [start, timeoutInEffect, timeout_configure, configuration_configure]
    rfl

/-! ## Runs -/

namespace Run

/-- The second of the last activity: that of the last session started or the last reply read, or
the one that was in the store. -/
def lastActivity? (r : Run σ) : Option Int64 :=
  (r.laps.filterMap Lap.recorded?).getLast?.or (Session.load r.store r.contents).startedAt

theorem lastActivity?_next (m : Moment) (r : Run σ) :
    (r.next m).lastActivity? = (r.lap m).recorded?.or r.lastActivity? := by
  unfold lastActivity?
  rw [laps_next, List.filterMap_append, List.getLast?_append, Option.or_assoc]
  congr 1
  cases recorded : (r.lap m).recorded? <;> simp [recorded]

theorem startedAt_start {store : KeyValueStore σ} {s : σ} {configuration : Option Configuration}
    (has_id : (Client.start store s configuration).client.session.id ≠ "") :
    (Client.start store s configuration).client.session.startedAt =
      (Session.load store s).startedAt := by
  cases configuration with
  | none => rfl
  | some configuration =>
    by_cases optedOut : configuration.privacy = .optedOut
    · simp [Client.start, Client.configure_of_optedOut optedOut] at has_id
    · simp [Client.start, Client.configure_of_not_optedOut optedOut]

/-- As long as there is a session, it has the second of the last activity. -/
theorem startedAt_eq (r : Run σ) (has_id : r.client.session.id ≠ "") :
    r.client.session.startedAt = r.lastActivity? := by
  induction r using Run.induction with
  | start store contents configuration => exact startedAt_start has_id
  | next r m ih =>
    rw [client_next] at has_id ⊢
    have id_eq : (r.client.act m).client.session.id = _ := (r.lap m).id_step
    have startedAt_eq : (r.client.act m).client.session.startedAt = _ := (r.lap m).startedAt_step
    have remembers : (r.lap m).moment.operation.forgets = false := by
      by_contra forgets
      exact has_id (id_eq.trans (if_pos (by simpa using forgets)))
    rw [remembers] at id_eq startedAt_eq
    rw [startedAt_eq, lastActivity?_next]
    cases recorded : (r.lap m).recorded? with
    | some second => rfl
    | none =>
      -- Nothing recorded: no session was started, so the one before goes on.
      have not_generated : (r.lap m).generated? = none := by
        by_contra generated
        have started := Option.isSome_iff_ne_none.mpr generated
        simp [Lap.recorded?, started] at recorded
      rw [not_generated] at id_eq
      have same : (r.client.act m).client.session.id = r.client.session.id := id_eq
      exact ih (same ▸ has_id)

theorem timeout_eq (r : Run σ) : r.client.session.timeout = r.client.timeoutInEffect := by
  induction r using Run.induction with
  | start store contents configuration =>
    exact Client.timeout_start store contents configuration
  | next r m ih =>
    rw [client_next, Client.timeout_act, Client.timeoutInEffect, Client.configuration_act]
    cases m.operation with
    | configure configuration => rfl
    | call _ => exact ih
    | reset => exact ih
    | setThirdPartyId _ => exact ih
    | getIdentifiers => exact ih

/-- The ids that the run's sessions were given are not empty, and are all different from one
another and from the one that the client started with. -/
structure FreshIds (r : Run σ) : Prop where
  nonempty : "" ∉ generatedIds r.laps
  distinct : (r.start.client.session.id :: generatedIds r.laps).Nodup

/-- What holds of a session that an operation begins. -/
structure Begins (r : Run σ) (m : Moment) (id : String) : Prop where
  attempted : (r.lap m).attempts = true
  none_or_expired : r.client.session.id = "" ∨ (r.lap m).expired = true
  id_eq : id = m.here.freshSessionId
  id_after : (r.next m).client.session.id = id
  startedAt_after : (r.next m).client.session.startedAt = some m.here.seconds
  written : [.setString StoreKey.sessionId id,
    .setInteger StoreKey.sessionTimestamp m.here.seconds] <:+: (r.client.act m).writes
  stored : r.store.Faithful → id ≠ "" →
    r.store.getString? (r.next m).stored StoreKey.sessionId = some id ∧
      r.store.getInteger? (r.next m).stored StoreKey.sessionTimestamp = some m.here.seconds

theorem begins_of_generated? {r : Run σ} {m : Moment} {id : String}
    (generated : (r.lap m).generated? = some id) : r.Begins m id := by
  obtain ⟨attempted, starts, id_eq⟩ := Lap.generated?_eq_some_iff.mp generated
  have remembers := Lap.not_forgets_of_attempts attempted
  have id_after : (r.next m).client.session.id = id := by
    have step : (r.client.act m).client.session.id = _ := (r.lap m).id_step
    rw [client_next, step, remembers, generated]
    rfl
  have startedAt_after : (r.next m).client.session.startedAt = some m.here.seconds := by
    have step : (r.client.act m).client.session.startedAt = _ := (r.lap m).startedAt_step
    have recorded : (r.lap m).recorded? = some m.here.seconds := by
      rw [Lap.recorded?, generated]
      rfl
    rw [client_next, step, remembers, recorded]
    rfl
  exact {
    attempted
    none_or_expired := Lap.startsSession_iff.mp starts
    id_eq := id_eq.symm
    id_after, startedAt_after
    written := Lap.writes_of_generated? (l := r.lap m) generated
    stored := by
      intro faithful has_id
      have same_store : (r.next m).store = r.store := rfl
      obtain ⟨ended, coherent⟩ := (r.next m).coherent faithful
      have read := coherent.stored_of_id (by rw [id_after]; exact has_id)
      rwa [same_store, id_after, startedAt_after] at read }

/-- An operation begins a session exactly if it gets to read the session and finds none, or an
expired one. -/
theorem generated?_eq_some_iff {r : Run σ} {m : Moment} {id : String} :
    (r.lap m).generated? = some id ↔ r.Begins m id := by
  refine ⟨begins_of_generated?, fun begins => ?_⟩
  have starts := Lap.startsSession_iff (l := r.lap m) |>.mpr begins.none_or_expired
  exact Lap.generated?_eq_some_iff.mpr ⟨begins.attempted, starts, begins.id_eq.symm⟩

/-- Two attempts of a run, with what lies between them, as moments: what the first leaves is where
the others start. -/
theorem exists_moments_between {r : Run σ} {earlier between later : List Lap} {first second : Lap}
    (split : r.laps = earlier ++ first :: (between ++ second :: later)) :
    ∃ moments, between ++ [second] = first.step.client.laps moments ∧
      second.step.client = first.step.client.after moments := by
  obtain ⟨_, since, -, -, since_eq⟩ := Client.exists_moments_of_laps split
  cases since with
  | nil => cases since_eq
  | cons m since =>
    obtain ⟨rfl, rest⟩ := List.cons.inj since_eq
    obtain ⟨middle, last, -, rfl, last_eq⟩ := Client.exists_moments_of_laps rest.symm
    cases last with
    | nil => cases last_eq
    | cons n last =>
      obtain ⟨rfl, -⟩ := List.cons.inj last_eq
      exact ⟨middle ++ [n], (Client.laps_concat middle n _).symm, (Client.after_concat ..).symm⟩

/-- What a lap of a run leaves has the id that there was at the start, one generated up to then, or
none. -/
theorem id_mem_of_split {r : Run σ} {earlier later : List Lap} {l : Lap}
    (split : r.laps = earlier ++ l :: later) :
    l.step.client.session.id = "" ∨
      l.step.client.session.id ∈ r.start.client.session.id :: generatedIds (earlier ++ [l]) := by
  obtain ⟨before, since, -, rfl, since_eq⟩ := Client.exists_moments_of_laps split
  cases since with
  | nil => cases since_eq
  | cons m since =>
    obtain ⟨rfl, -⟩ := List.cons.inj since_eq
    have known := Client.id_after_mem (before ++ [m]) r.start.client
    rwa [Client.after_concat, Client.laps_concat] at known

namespace FreshIds

theorem sessionId_nonempty {r : Run σ} (fresh : r.FreshIds) {l : Lap} (among : l ∈ r.laps)
    (attempts : l.attempts = true) : l.sessionId ≠ "" := by
  rw [Lap.sessionId_of_attempts attempts]
  cases generated : l.generated? with
  | some id =>
    rintro rfl
    exact fresh.nonempty (List.mem_filterMap.mpr ⟨l, among, generated⟩)
  | none =>
    intro no_id
    have starts := Lap.startsSession_iff.mpr (.inl no_id)
    rw [Lap.generated?_of_attempts attempts, if_pos starts] at generated
    cases generated

/-- Two attempts are for one session exactly if nothing since the first broke it. -/
theorem sessionId_eq_iff {r : Run σ} (fresh : r.FreshIds) {earlier between later : List Lap}
    {first second : Lap} (split : r.laps = earlier ++ first :: (between ++ second :: later))
    (first_attempts : first.attempts = true) (second_attempts : second.attempts = true) :
    first.sessionId = second.sessionId ↔
      (∀ l ∈ between, l.breaks = false) ∧ second.expired = false := by
  have second_breaks : second.breaks = second.expired := by
    simp [Lap.breaks, Lap.not_forgets_of_attempts second_attempts, second_attempts]
  have unbroken_iff : ((∀ l ∈ between, l.breaks = false) ∧ second.expired = false) ↔
      ∀ l ∈ between ++ [second], l.breaks = false := by
    simp [or_imp, forall_and, second_breaks]
  have first_nonempty := fresh.sessionId_nonempty (by simp [split]) first_attempts
  have second_nonempty := fresh.sessionId_nonempty (by simp [split]) second_attempts
  obtain ⟨moments, laps_eq, client_eq⟩ := exists_moments_between split
  rw [← Lap.id_of_attempts first_attempts] at first_nonempty ⊢
  rw [← Lap.id_of_attempts second_attempts, client_eq] at second_nonempty ⊢
  rw [unbroken_iff, laps_eq]
  constructor
  · intro same
    by_contra broken
    have broken : ∃ l ∈ first.step.client.laps moments, l.breaks = true := by
      simpa using broken
    have since := (Client.id_after_of_broken broken).resolve_left second_nonempty
    have before := (id_mem_of_split split).resolve_left first_nonempty
    -- An id from before cannot be one of those generated since.
    have laps_parted : r.laps = (earlier ++ [first]) ++ ((between ++ [second]) ++ later) := by
      simp [split]
    have distinct := fresh.distinct
    rw [laps_parted, generatedIds_append (earlier ++ [first]),
      generatedIds_append (between ++ [second]), laps_eq, ← List.cons_append] at distinct
    have apart := (List.nodup_append.mp distinct).2.2
    exact apart _ before _ (List.mem_append_left _ since) same
  · intro unbroken
    exact (Client.id_after_of_unbroken first_nonempty unbroken).symm

end FreshIds

/-- **Sessions go on until they are forgotten or expire.** Whatever was asked of a client over
whatever store, with any clock and any answers: the id of the session is emptied when the visitor is
forgotten, replaced by a new one when an operation begins a session, and stays otherwise. What
begins is written at once. If the new ids are all different, two requests tell the same session's id
exactly if nothing between them broke the session and it was not expired at the second one. The
second that expiry is judged by is that of the last activity, and the timeout is that of the
configuration in effect. -/
theorem session_continues (r : Run σ) :
    (∀ m,
      ((r.client.act m).client.session.id =
        if m.operation.forgets then "" else (r.lap m).generated?.getD r.client.session.id) ∧
      ∀ id, (r.lap m).generated? = some id ↔ r.Begins m id) ∧
    (r.FreshIds → ∀ earlier first between second later request next_request,
      r.laps = earlier ++ first :: (between ++ second :: later) →
      first.step.request = some request → second.step.request = some next_request →
      request.url.value? "sessionId" = some (utf8 first.sessionId) ∧
      (request.url.value? "sessionId" = next_request.url.value? "sessionId" ↔
        (∀ l ∈ between, l.breaks = false) ∧ second.expired = false)) ∧
    (r.client.session.id ≠ "" → r.client.session.startedAt = r.lastActivity?) ∧
    r.client.session.timeout = r.client.timeoutInEffect := by
  refine ⟨fun m => ⟨(r.lap m).id_step, fun id => generated?_eq_some_iff⟩, ?_, r.startedAt_eq,
    r.timeout_eq⟩
  intro fresh earlier first between second later request next_request split sent next_sent
  have attempts := Lap.attempts_of_request sent
  have next_attempts := Lap.attempts_of_request next_sent
  obtain ⟨_, _, -, reaches⟩ := Lap.reaches_of_request sent
  obtain ⟨_, _, -, next_reaches⟩ := Lap.reaches_of_request next_sent
  have told := Endpoint.value?_of_url? reaches.url
  have next_told := Endpoint.value?_of_url? next_reaches.url
  refine ⟨told, ?_⟩
  rw [told, next_told, Option.some_inj, utf8_inj]
  exact fresh.sessionId_eq_iff split attempts next_attempts

/-- Of three requests the second comes half an hour after the first, which is not too late, and the
third a second more after that, which is. -/
theorem session_continues_for_half_an_hour :
    let moment (seconds : Int64) (freshSessionId : String) : Moment :=
      { here :=
          { millis := seconds * 1000, utcOffset := 0, freshSessionId
            freshNotificationId := fun _ => "", facts := {} }
        answer := .ok { status := 200, body := "\x7b\x7d".toUTF8 }
        operation := .call (.execute [{ name := "box" }] none), direct := true }
    let r : Run Storage :=
      { store := .memory, contents := ∅
        configuration := some { clientCode := "acme", privacy := .optedIn }
        moments := [moment 0 "first", moment 1800 "second", moment 3601 "third"] }
    r.FreshIds ∧
    ∃ first second third a b c, r.laps = [first, second, third] ∧
      first.step.request = some a ∧ second.step.request = some b ∧ third.step.request = some c ∧
      a.url.value? "sessionId" = b.url.value? "sessionId" ∧
      b.url.value? "sessionId" ≠ c.url.value? "sessionId" := by
  intro moment r
  have fresh : r.FreshIds := ⟨by decide +kernel, by decide +kernel⟩
  have all_sent : (r.laps.all fun l => l.step.request.isSome) = true := by decide +kernel
  have expired : r.laps.map Lap.expired = [false, false, true] := by decide +kernel
  obtain ⟨first, second, third, laps_eq⟩ : ∃ first second third, r.laps = [first, second, third] :=
    ⟨_, _, _, rfl⟩
  rw [laps_eq] at all_sent expired
  simp only [List.all_cons, List.all_nil, Bool.and_true, Bool.and_eq_true,
    Option.isSome_iff_exists] at all_sent
  simp only [List.map_cons, List.map_nil, List.cons.injEq, and_true] at expired
  obtain ⟨⟨a, sent⟩, ⟨b, next_sent⟩, c, last_sent⟩ := all_sent
  have tells_same := (session_continues r).2.1 fresh
  have same_iff := (tells_same [] first [] second [third] a b laps_eq sent next_sent).2
  have other_iff := (tells_same [first] second [] third [] b c laps_eq next_sent last_sent).2
  refine ⟨fresh, first, second, third, a, b, c, laps_eq, sent, next_sent, last_sent, ?_, ?_⟩
  · exact same_iff.mpr ⟨by simp, expired.2.1⟩
  · rw [Ne, other_iff, expired.2.2]
    simp

end Run

end ContentDelivery
