/-
ContentDelivery.Proofs.Client.Serialisation — a client behind a queue is a client on its own.

Any number of threads submit messages to an intake; one that finds no
room waits. A `Step` is one move of one thread or of the worker, and what
the worker finds around the client or is answered is open at every step.
`serialises`: in every state that is reached this way the client has gone
through some of the operations, one after another and as they were
accepted. So what it knows, sends, tells and writes depends on their
order and on nothing else: not on the capacity, not on the threads, not
on who moved when. Everything that is proved of runs of a client holds of
the worker's.

The invariant is `Accounted`. It says of each state of the worker where
the accepted messages are: finished, in hand, waiting, or given up. It
needs that the queue is within its capacity, since a queue without
capacity is passed by.
-/
import ContentDelivery.Client.Intake
import ContentDelivery.Proofs.Client.Run
import Mathlib.Logic.Function.Basic
import Mathlib.Logic.Relation

namespace ContentDelivery

/-! ## Effects -/

/-- What others see of a client's work, each kind in its order. -/
structure Effects where
  requests : List HttpRequest := []
  events : List Event := []
  writes : List StoreEdit := []

namespace Effects

def add (e f : Effects) : Effects where
  requests := e.requests ++ f.requests
  events := e.events ++ f.events
  writes := e.writes ++ f.writes

end Effects

def Step.effects (step : Step α) : Effects where
  requests := step.request.toList
  events := step.events
  writes := step.writes

namespace Client

/-- The effects of some operations that are handed over one after another. -/
def effects : List Moment → Client → Effects
  | [], _ => {}
  | m :: moments, c => (c.act m).effects.add (effects moments (c.act m).client)

theorem effects_concat (moments : List Moment) (m : Moment) (c : Client) :
    c.effects (moments ++ [m]) = (c.effects moments).add ((c.after moments).act m).effects := by
  induction moments generalizing c with
  | nil => simp [effects, after, Effects.add]
  | cons first moments ih =>
    rw [List.cons_append, effects, effects, ih]
    simp [Effects.add, after]

end Client

namespace Intake

/-! ## Messages -/

/-- The operations among some messages that come before the first message to stop. -/
def beforeStop : List Message → List Operation
  | [] => []
  | .operation o :: messages => o :: beforeStop messages
  | .stop :: _ => []

theorem beforeStop_operations_append (operations : List Operation) (messages : List Message) :
    beforeStop (operations.map .operation ++ messages) = operations ++ beforeStop messages := by
  induction operations with
  | nil => rfl
  | cons o operations ih => exact congrArg (o :: ·) ih

/-- What follows a message to stop does not count. -/
theorem beforeStop_append_of_stop {messages : List Message} (stops : .stop ∈ messages)
    (later : List Message) : beforeStop (messages ++ later) = beforeStop messages := by
  induction messages with
  | nil => cases stops
  | cons message messages ih =>
    cases message with
    | stop => rfl
    | operation o =>
      have stops : Message.stop ∈ messages := by simpa using stops
      exact congrArg (o :: ·) (ih stops)

/-! ## Moves of an intake -/

/-- Whether the worker has ended. -/
def Worker.ended : Worker → Bool
  | stopped | panicked => true
  | idle _ | busy _ _ => false

/-- The worker's client. -/
def Worker.client? : Worker → Option Client
  | idle client | busy client _ => some client
  | stopped | panicked => none

/-- The operation that the worker has taken and not finished. -/
def Worker.inHand : Worker → List Operation
  | busy _ operation => [operation]
  | idle _ | stopped | panicked => []

theorem submit_eq_accepted {i next : Intake} {message : Message}
    (h : i.submit message = .accepted next) :
    (∃ client, i.worker = .idle client ∧ i.capacity = 0 ∧ next = i.receive client message) ∨
      i.worker.ended = false ∧ i.queue.length < i.capacity ∧
        next = { i with queue := i.queue ++ [message] } := by
  unfold submit at h
  cases worker : i.worker with
  | stopped => simp [worker] at h
  | panicked => simp [worker] at h
  | idle client =>
    simp only [worker] at h
    split at h
    · next no_capacity => exact .inl ⟨client, rfl, no_capacity, (Submission.accepted.inj h).symm⟩
    · split at h
      · next room => exact .inr ⟨rfl, room, (Submission.accepted.inj h).symm⟩
      · cases h
  | busy client operation =>
    simp only [worker] at h
    split at h
    · next room => exact .inr ⟨rfl, room, (Submission.accepted.inj h).symm⟩
    · cases h

theorem submit_eq_refused_iff {i : Intake} {message : Message} :
    i.submit message = .refused ↔ i.worker.ended = true := by
  unfold submit
  cases i.worker with
  | stopped => simp [Worker.ended]
  | panicked => simp [Worker.ended]
  | idle client =>
    dsimp only
    split
    · simp [Worker.ended]
    · split <;> simp [Worker.ended]
  | busy client operation =>
    dsimp only
    split <;> simp [Worker.ended]

theorem take?_eq_some {i next : Intake} (h : i.take? = some next) :
    ∃ client message queue, i.worker = .idle client ∧ i.queue = message :: queue ∧
      next = { i with queue }.receive client message := by
  unfold take? at h
  split at h
  · next client message queue worker waiting =>
    exact ⟨client, message, queue, worker, waiting, (Option.some.inj h).symm⟩
  · cases h

def Progress.effects (p : Progress) : Effects where
  requests := p.request.toList
  events := p.events
  writes := p.writes

/-- The worker finishes whatever comes of the operation, also a failure, and is idle again. -/
theorem finish?_of_whole {i : Intake} {client : Client} {operation : Operation}
    {here : Surroundings} {sending : Sending} (busy : i.worker = .busy client operation)
    (whole : cutOff? here sending operation client = none) :
    let step := client.handle here sending.answer operation
    i.finish? here sending = some
      { intake := { i with worker := .idle step.client }
        request := step.request
        events := step.events
        writes := step.writes } := by
  simp [finish?, busy, whole]

theorem finish?_of_cutOff {i : Intake} {client : Client} {operation : Operation}
    {here : Surroundings} {sending : Sending} {request : HttpRequest} {writes : List StoreEdit}
    (busy : i.worker = .busy client operation)
    (cut : cutOff? here sending operation client = some (request, writes)) :
    i.finish? here sending = some
      { intake := { i with queue := [], worker := .panicked }
        request := some request
        writes } := by
  simp [finish?, busy, cut]

/-- Only a call is cut off, once its request is sent. -/
theorem cutOff?_eq_some {here : Surroundings} {sending : Sending} {operation : Operation}
    {client : Client} {request : HttpRequest} {writes : List StoreEdit}
    (cut : cutOff? here sending operation client = some (request, writes)) :
    ∃ call, operation = .call call ∧ (client.begin here call).request = .ok request ∧
      (client.begin here call).writes = writes := by
  unfold cutOff? at cut
  split at cut
  · next call =>
    obtain ⟨sent, begun, same⟩ := Option.map_eq_some_iff.mp cut
    obtain ⟨rfl, rfl⟩ := Prod.mk.inj same
    refine ⟨call, rfl, ?_, rfl⟩
    cases departed : (client.begin here call).request with
    | error failure => simp [departed, Except.toOption] at begun
    | ok request => simpa [departed, Except.toOption] using begun
  · cases cut

/-! ## Threads -/

/-- An intake, the threads that submit to it, and what has happened so far. -/
structure Traffic (ι : Type u) where
  intake : Intake
  /-- What a thread is submitting, until it is accepted or refused. -/
  submitting : ι → Option Message
  /-- The messages that were accepted, the first first. -/
  accepted : List Message := []
  /-- The operations that the worker has finished, the first first. -/
  handled : List Moment := []
  /-- What others saw of the worker. -/
  effects : Effects := {}

namespace Traffic

variable {ι : Type u}

def start (ι : Type u) (capacity : Nat) (client : Client) : Traffic ι where
  intake := Intake.start capacity client
  submitting := fun _ => none

/-- The operations that the worker has finished. -/
def operations (t : Traffic ι) : List Operation := t.handled.map Moment.operation

/-- An operation that was handed over and finished. -/
def finished (here : Surroundings) (sending : Sending) (operation : Operation) : Moment where
  here := here
  answer := sending.answer
  operation := operation
  direct := false

/-! ## Where the accepted messages are -/

/-- What the effects are when a call was cut off: those of the operations before it, its request and
what it wrote up to that. -/
def CutOffAfter (client : Client) (t : Traffic ι) (call : Call) : Prop :=
  ∃ here request, ((client.after t.handled).begin here call).request = .ok request ∧
    t.effects = (client.effects t.handled).add
      { requests := [request], writes := ((client.after t.handled).begin here call).writes }

/-- Where the accepted messages are, and what the work comes to so far. -/
inductive Accounted (client : Client) (t : Traffic ι) : Prop where
  | underway (alive : t.intake.worker.ended = false)
      (client_eq : ∀ current, t.intake.worker.client? = some current →
        current = client.after t.handled)
      (effects_eq : t.effects = client.effects t.handled)
      (accepted_eq : t.accepted =
        (t.operations ++ t.intake.worker.inHand).map Message.operation ++ t.intake.queue)
  | stopped (worker_eq : t.intake.worker = .stopped) (none_waits : t.intake.queue = [])
      (effects_eq : t.effects = client.effects t.handled) (given_up : List Message)
      (accepted_eq : t.accepted = t.operations.map Message.operation ++ .stop :: given_up)
  | panicked (worker_eq : t.intake.worker = .panicked) (none_waits : t.intake.queue = [])
      (call : Call) (cut_off : CutOffAfter client t call) (given_up : List Message)
      (accepted_eq : t.accepted =
        (t.operations ++ [Operation.call call]).map Message.operation ++ given_up)

namespace Accounted

variable {client : Client} {t : Traffic ι}

/-- What is accounted for a worker that is idle. -/
theorem of_idle (h : Accounted client t) {current : Client}
    (idle : t.intake.worker = .idle current) :
    current = client.after t.handled ∧ t.effects = client.effects t.handled ∧
      t.accepted = t.operations.map Message.operation ++ t.intake.queue := by
  cases h with
  | underway alive client_eq effects_eq accepted_eq =>
    refine ⟨client_eq current (by rw [idle]; rfl), effects_eq, ?_⟩
    simpa [idle, Worker.inHand] using accepted_eq
  | stopped worker_eq => cases idle.symm.trans worker_eq
  | panicked worker_eq => cases idle.symm.trans worker_eq

/-- What is accounted for a worker that is busy. -/
theorem of_busy (h : Accounted client t) {current : Client} {operation : Operation}
    (busy : t.intake.worker = .busy current operation) :
    current = client.after t.handled ∧ t.effects = client.effects t.handled ∧
      t.accepted = (t.operations ++ [operation]).map Message.operation ++ t.intake.queue := by
  cases h with
  | underway alive client_eq effects_eq accepted_eq =>
    refine ⟨client_eq current (by rw [busy]; rfl), effects_eq, ?_⟩
    simpa [busy, Worker.inHand] using accepted_eq
  | stopped worker_eq => cases busy.symm.trans worker_eq
  | panicked worker_eq => cases busy.symm.trans worker_eq

/-- It does not matter which threads wait. -/
theorem resubmitting (h : Accounted client t) (submitting : ι → Option Message) :
    Accounted client { t with submitting } := by
  cases h with
  | underway alive client_eq effects_eq accepted_eq =>
    exact .underway alive client_eq effects_eq accepted_eq
  | stopped worker_eq none_waits effects_eq given_up accepted_eq =>
    exact .stopped worker_eq none_waits effects_eq given_up accepted_eq
  | panicked worker_eq none_waits call cut_off given_up accepted_eq =>
    exact .panicked worker_eq none_waits call cut_off given_up accepted_eq

/-- An idle worker that takes the next message is busy with it, or stops. -/
theorem receive {current : Client} {message : Message} {intake : Intake} {accepted : List Message}
    (client_eq : current = client.after t.handled)
    (effects_eq : t.effects = client.effects t.handled)
    (accepted_eq : accepted = t.operations.map Message.operation ++ message :: intake.queue)
    (submitting : ι → Option Message) :
    Accounted client { t with intake := intake.receive current message, submitting, accepted } := by
  cases message with
  | operation o =>
    refine .underway rfl ?_ effects_eq (accepted_eq.trans ?_)
    · rintro _ ⟨⟩
      exact client_eq
    · simp [operations, Intake.receive, Worker.inHand]
  | stop => exact .stopped rfl rfl effects_eq intake.queue accepted_eq

/-- A message that has room goes to the end of the queue. -/
theorem enqueue (h : Accounted client t) (message : Message) (alive : t.intake.worker.ended = false)
    (submitting : ι → Option Message) :
    Accounted client
      { t with
        intake := { t.intake with queue := t.intake.queue ++ [message] }
        submitting
        accepted := t.accepted ++ [message] } := by
  cases h with
  | underway _ client_eq effects_eq accepted_eq =>
    refine .underway alive client_eq effects_eq ?_
    rw [accepted_eq, List.append_assoc]
    rfl
  | stopped worker_eq => simp [worker_eq, Worker.ended] at alive
  | panicked worker_eq => simp [worker_eq, Worker.ended] at alive

theorem finish (h : Accounted client t) {here : Surroundings} {sending : Sending}
    {current : Client} {operation : Operation}
    (busy : t.intake.worker = .busy current operation) :
    let step := current.handle here sending.answer operation
    Accounted client
      { t with
        intake := { t.intake with worker := .idle step.client }
        handled := t.handled ++ [finished here sending operation]
        effects := t.effects.add step.effects } := by
  obtain ⟨rfl, effects_eq, accepted_eq⟩ := h.of_busy busy
  refine .underway rfl ?_ ?_ ?_
  · rintro _ ⟨⟩
    exact (Client.after_concat t.handled (finished here sending operation) client).symm
  · rw [effects_eq]
    exact (client.effects_concat t.handled (finished here sending operation)).symm
  · simpa [operations, finished, Worker.inHand] using accepted_eq

theorem breakDown (h : Accounted client t) {here : Surroundings} {sending : Sending}
    {current : Client} {operation : Operation} {request : HttpRequest} {writes : List StoreEdit}
    (busy : t.intake.worker = .busy current operation)
    (cut : cutOff? here sending operation current = some (request, writes)) :
    Accounted client
      { t with
        intake := { t.intake with queue := [], worker := .panicked }
        effects := t.effects.add { requests := [request], writes } } := by
  obtain ⟨rfl, effects_eq, accepted_eq⟩ := h.of_busy busy
  obtain ⟨call, rfl, begun, rfl⟩ := cutOff?_eq_some cut
  refine .panicked rfl rfl call ⟨here, request, begun, ?_⟩ t.intake.queue accepted_eq
  rw [effects_eq]

end Accounted

/-- The work of an intake is that of its client alone. -/
structure Serialised (client : Client) (t : Traffic ι) : Prop where
  /-- What was finished, what is in hand and what still counts in the queue is what was accepted. -/
  in_order : t.intake.worker ≠ .panicked →
    t.operations ++ t.intake.worker.inHand ++ beforeStop t.intake.queue = beforeStop t.accepted
  /-- Operations are begun in the order in which they were accepted, up to the first stop. -/
  begun : t.operations ++ t.intake.worker.inHand <+: beforeStop t.accepted
  client_eq : ∀ current, t.intake.worker.client? = some current →
    current = client.after t.handled
  effects_eq : t.intake.worker ≠ .panicked → t.effects = client.effects t.handled
  /-- A worker that stopped was asked to, and has finished all that was accepted before. -/
  stopped : t.intake.worker = .stopped →
    .stop ∈ t.accepted ∧ t.operations = beforeStop t.accepted
  /-- A worker that panicked did so over the call that was next. -/
  panicked : t.intake.worker = .panicked →
    ∃ call, CutOffAfter client t call ∧ t.operations ++ [.call call] <+: beforeStop t.accepted

theorem Accounted.serialised {client : Client} {t : Traffic ι} (h : Accounted client t) :
    Serialised client t := by
  cases h with
  | underway alive client_eq effects_eq accepted_eq =>
    have in_order : beforeStop t.accepted =
        t.operations ++ t.intake.worker.inHand ++ beforeStop t.intake.queue := by
      rw [accepted_eq, beforeStop_operations_append]
    exact {
      in_order := fun _ => in_order.symm
      begun := ⟨_, in_order.symm⟩
      client_eq
      effects_eq := fun _ => effects_eq
      stopped := fun worker_eq => by simp [worker_eq, Worker.ended] at alive
      panicked := fun worker_eq => by simp [worker_eq, Worker.ended] at alive }
  | stopped worker_eq none_waits effects_eq given_up accepted_eq =>
    have all_finished : t.operations = beforeStop t.accepted := by
      rw [accepted_eq, beforeStop_operations_append]
      exact (List.append_nil _).symm
    exact {
      in_order := fun _ => by simp [worker_eq, Worker.inHand, none_waits, beforeStop, all_finished]
      begun := by simp [worker_eq, Worker.inHand, all_finished]
      client_eq := by simp [worker_eq, Worker.client?]
      effects_eq := fun _ => effects_eq
      stopped := fun _ => ⟨by simp [accepted_eq], all_finished⟩
      panicked := by simp [worker_eq] }
  | panicked worker_eq none_waits call cut_off given_up accepted_eq =>
    have next : t.operations ++ [.call call] <+: beforeStop t.accepted := by
      rw [accepted_eq, beforeStop_operations_append]
      exact List.prefix_append _ _
    exact {
      in_order := by simp [worker_eq]
      begun := by simpa [worker_eq, Worker.inHand] using (List.prefix_append _ _).trans next
      client_eq := by simp [worker_eq, Worker.client?]
      effects_eq := by simp [worker_eq]
      stopped := by simp [worker_eq]
      panicked := fun _ => ⟨call, cut_off, next⟩ }

/-! ## Moves of threads and worker -/

variable [DecidableEq ι]

/-- One move of a thread or of the worker. A thread whose message is neither accepted nor refused
waits. -/
inductive Move (t : Traffic ι) : Traffic ι → Prop where
  /-- A thread submits a message. -/
  | submit (thread : ι) (message : Message) (free : t.submitting thread = none) :
      Move t { t with submitting := Function.update t.submitting thread (some message) }
  | accept (thread : ι) (message : Message) (intake : Intake)
      (submits : t.submitting thread = some message)
      (accepts : t.intake.submit message = .accepted intake) :
      Move t
        { t with
          intake
          submitting := Function.update t.submitting thread none
          accepted := t.accepted ++ [message] }
  | refuse (thread : ι) (message : Message) (submits : t.submitting thread = some message)
      (refuses : t.intake.submit message = .refused) :
      Move t { t with submitting := Function.update t.submitting thread none }
  | take (intake : Intake) (takes : t.intake.take? = some intake) : Move t { t with intake }
  | finish (here : Surroundings) (sending : Sending) (client : Client) (operation : Operation)
      (progress : Progress) (busy : t.intake.worker = .busy client operation)
      (whole : cutOff? here sending operation client = none)
      (finishes : t.intake.finish? here sending = some progress) :
      Move t
        { t with
          intake := progress.intake
          handled := t.handled ++ [finished here sending operation]
          effects := t.effects.add progress.effects }
  /-- The transport breaks down. -/
  | breakDown (here : Surroundings) (sending : Sending) (client : Client) (operation : Operation)
      (progress : Progress) (busy : t.intake.worker = .busy client operation)
      (cut : cutOff? here sending operation client ≠ none)
      (finishes : t.intake.finish? here sending = some progress) :
      Move t
        { t with
          intake := progress.intake
          effects := t.effects.add progress.effects }

/-- Some moves, one after another. -/
abbrev Moves : Traffic ι → Traffic ι → Prop := Relation.ReflTransGen Move

/-- As long as the queue is within its capacity, a message that is taken without waiting overtakes
none. -/
def Roomy (t : Traffic ι) : Prop := t.intake.queue.length ≤ t.intake.capacity

theorem Roomy.move {t u : Traffic ι} (h : t.Roomy) (move : t.Move u) : u.Roomy := by
  unfold Roomy at *
  cases move with
  | submit thread message free => exact h
  | refuse thread message submits refuses => exact h
  | accept thread message intake submits accepts =>
    rcases submit_eq_accepted accepts with ⟨client, -, no_capacity, rfl⟩ | ⟨-, room, rfl⟩
    · cases message with
      | operation o => exact h
      | stop => exact Nat.zero_le _
    · simpa using Nat.succ_le_of_lt room
  | take intake takes =>
    obtain ⟨client, message, queue, -, waiting, rfl⟩ := take?_eq_some takes
    rw [waiting, List.length_cons] at h
    cases message with
    | operation o => exact Nat.le_of_succ_le h
    | stop => exact Nat.zero_le _
  | finish here sending client operation progress busy whole finishes =>
    obtain rfl := Option.some.inj ((finish?_of_whole busy whole).symm.trans finishes)
    exact h
  | breakDown here sending client operation progress busy cut finishes =>
    obtain ⟨⟨request, writes⟩, cut⟩ := Option.ne_none_iff_exists'.mp cut
    obtain rfl := Option.some.inj ((finish?_of_cutOff busy cut).symm.trans finishes)
    exact Nat.zero_le _

/-- **Every move accounts for every message.** -/
theorem Accounted.move {client : Client} {t u : Traffic ι} (h : Accounted client t)
    (roomy : t.Roomy) (move : t.Move u) : Accounted client u := by
  cases move with
  | submit thread message free => exact h.resubmitting _
  | refuse thread message submits refuses => exact h.resubmitting _
  | accept thread message intake submits accepts =>
    rcases submit_eq_accepted accepts with ⟨current, idle, no_capacity, rfl⟩ | ⟨alive, -, rfl⟩
    · -- Without capacity nothing waits, so the message is the next one.
      have no_queue : t.intake.queue = [] := by
        have short : t.intake.queue.length ≤ t.intake.capacity := roomy
        rw [no_capacity] at short
        exact List.length_eq_zero_iff.mp (Nat.le_zero.mp short)
      obtain ⟨client_eq, effects_eq, accepted_eq⟩ := h.of_idle idle
      exact Accounted.receive client_eq effects_eq (by simp [accepted_eq, no_queue]) _
    · exact h.enqueue message alive _
  | take intake takes =>
    obtain ⟨current, message, queue, idle, waiting, rfl⟩ := take?_eq_some takes
    obtain ⟨client_eq, effects_eq, accepted_eq⟩ := h.of_idle idle
    rw [waiting] at accepted_eq
    exact Accounted.receive client_eq effects_eq accepted_eq _
  | finish here sending current operation progress busy whole finishes =>
    obtain rfl := Option.some.inj ((finish?_of_whole busy whole).symm.trans finishes)
    exact h.finish busy
  | breakDown here sending current operation progress busy cut finishes =>
    obtain ⟨⟨request, writes⟩, cut⟩ := Option.ne_none_iff_exists'.mp cut
    obtain rfl := Option.some.inj ((finish?_of_cutOff busy cut).symm.trans finishes)
    exact h.breakDown busy cut

theorem accounted_of_moves {capacity : Nat} {client : Client} {t : Traffic ι}
    (reached : (start ι capacity client).Moves t) : Accounted client t ∧ t.Roomy := by
  induction reached with
  | refl =>
    refine ⟨.underway rfl ?_ rfl rfl, Nat.zero_le _⟩
    rintro _ ⟨⟩
    rfl
  | tail _ move ih => exact ⟨ih.1.move ih.2 move, ih.2.move move⟩

/-- Messages are accepted after those that were accepted before. -/
theorem accepted_of_moves {t u : Traffic ι} (moves : t.Moves u) : t.accepted <+: u.accepted := by
  induction moves with
  | refl => exact List.prefix_refl _
  | tail _ move ih =>
    cases move with
    | accept thread message intake submits accepts => exact ih.trans (List.prefix_append _ _)
    | submit | refuse | take | finish | breakDown => exact ih

/-- A worker that has ended does nothing any more, and nothing is accepted. -/
theorem Move.of_ended {t u : Traffic ι} (ended : t.intake.worker.ended = true) (move : t.Move u) :
    u.intake = t.intake ∧ u.handled = t.handled ∧ u.effects = t.effects ∧
      u.accepted = t.accepted := by
  cases move with
  | submit thread message free => exact ⟨rfl, rfl, rfl, rfl⟩
  | refuse thread message submits refuses => exact ⟨rfl, rfl, rfl, rfl⟩
  | accept thread message intake submits accepts =>
    cases accepts.symm.trans (submit_eq_refused_iff.mpr ended)
  | take intake takes =>
    obtain ⟨current, _, _, idle, -⟩ := take?_eq_some takes
    simp [idle, Worker.ended] at ended
  | finish here sending current operation progress busy =>
    simp [busy, Worker.ended] at ended
  | breakDown here sending current operation progress busy =>
    simp [busy, Worker.ended] at ended

theorem of_ended {t u : Traffic ι} (ended : t.intake.worker.ended = true) (moves : t.Moves u) :
    u.intake = t.intake ∧ u.handled = t.handled ∧ u.effects = t.effects ∧
      u.accepted = t.accepted := by
  induction moves with
  | refl => exact ⟨rfl, rfl, rfl, rfl⟩
  | tail _ move ih =>
    obtain ⟨same_intake, same_handled, same_effects, same_accepted⟩ := ih
    have last := move.of_ended (same_intake ▸ ended)
    rw [same_intake, same_handled, same_effects, same_accepted] at last
    exact last

/-! ## What can happen -/

/-- An idle worker with nothing before it can be made busy with anything, whatever the capacity. -/
theorem exists_moves_to_busy {t : Traffic ι} {thread : ι} {current : Client}
    (free : t.submitting thread = none) (idle : t.intake.worker = .idle current)
    (nothing_waits : t.intake.queue = []) (operation : Operation) :
    ∃ u, t.Moves u ∧ u.intake.worker = .busy current operation ∧ u.intake.queue = [] ∧
      u.submitting thread = none ∧ u.handled = t.handled := by
  let message := Message.operation operation
  have submitted := Relation.ReflTransGen.single (Move.submit thread message free)
  by_cases no_capacity : t.intake.capacity = 0
  · have accepts : t.intake.submit message = .accepted (t.intake.receive current message) := by
      simp [submit, idle, no_capacity]
    have taken := submitted.tail
      (.accept thread message _ (Function.update_self thread _ _) accepts)
    exact ⟨_, taken, rfl, nothing_waits, Function.update_self thread _ _, rfl⟩
  · let waiting : Intake := { t.intake with queue := t.intake.queue ++ [message] }
    have accepts : t.intake.submit message = .accepted waiting := by
      simp [submit, idle, no_capacity, nothing_waits, Nat.pos_of_ne_zero no_capacity, waiting]
    have takes : waiting.take? = some ({ waiting with queue := [] }.receive current message) := by
      simp [take?, waiting, idle, nothing_waits]
    have accepted := submitted.tail
      (.accept thread message _ (Function.update_self thread _ _) accepts)
    have taken := accepted.tail (.take _ takes)
    exact ⟨_, taken, rfl, rfl, Function.update_self thread _ _, rfl⟩

/-- Whatever can be handed over to a client alone, in whatever circumstances, an intake of any
capacity can come to have handled. -/
theorem exists_moves_of_handed_over (thread : ι) (capacity : Nat) (client : Client)
    {moments : List Moment} (handed_over : ∀ m ∈ moments, m.direct = false) :
    ∃ t, (start ι capacity client).Moves t ∧ t.handled = moments ∧
      t.intake.worker = .idle (client.after moments) ∧ t.intake.queue = [] ∧
      t.submitting thread = none := by
  induction moments using List.reverseRecOn with
  | nil => exact ⟨_, .refl, rfl, rfl, rfl, rfl⟩
  | append_singleton moments m ih =>
    obtain ⟨t, reached, same_handled, idle, nothing_waits, free⟩ :=
      ih fun earlier among => handed_over earlier (List.mem_append_left _ among)
    obtain ⟨u, moves, busy, still_nothing, still_free, handled_eq⟩ :=
      exists_moves_to_busy free idle nothing_waits m.operation
    have m_eq : finished m.here (.answered m.answer) m.operation = m := by
      have not_direct := handed_over m (by simp)
      cases m
      simp_all [finished, Sending.answer]
    have whole : cutOff? m.here (.answered m.answer) m.operation (client.after moments) = none :=
      rfl
    have finishes := finish?_of_whole busy whole
    refine ⟨_, (reached.trans moves).tail (.finish _ _ _ _ _ busy whole finishes), ?_, ?_,
      still_nothing, still_free⟩
    · rw [m_eq, handled_eq, same_handled]
    · rw [Client.after_concat, Client.client_act]
      rfl

/-! ## Serialisation -/

/-- What the worker found around the client and was answered, operation by operation. -/
def circumstances (t : Traffic ι) : List (Surroundings × Except Failure HttpReply) :=
  t.handled.map fun m => (m.here, m.answer)

theorem direct_of_moves {capacity : Nat} {client : Client} {t : Traffic ι}
    (reached : (start ι capacity client).Moves t) : ∀ m ∈ t.handled, m.direct = false := by
  induction reached with
  | refl => simp [start]
  | tail _ move ih =>
    cases move with
    | finish here sending current operation progress busy whole finishes =>
      intro m among
      rcases List.mem_append.mp among with earlier | last
      · exact ih m earlier
      · rw [List.mem_singleton.mp last]
        rfl
    | submit | accept | refuse | take | breakDown => exact ih

/-- What is known of all operations is known of the moments. -/
theorem moments_eq {first second : List Moment} (not_direct : ∀ m ∈ first, m.direct = false)
    (not_direct' : ∀ m ∈ second, m.direct = false)
    (same_operations : first.map Moment.operation = second.map Moment.operation)
    (same_circumstances :
      first.map (fun m => (m.here, m.answer)) = second.map fun m => (m.here, m.answer)) :
    first = second := by
  induction first generalizing second with
  | nil => simpa using same_operations.symm
  | cons m first ih =>
    cases second with
    | nil => cases same_operations
    | cons n second =>
      obtain ⟨same_operation, same_operations⟩ := List.cons.inj same_operations
      obtain ⟨same_here, same_circumstances⟩ := List.cons.inj same_circumstances
      have rest := ih (fun o among => not_direct o (List.mem_cons_of_mem _ among))
        (fun o among => not_direct' o (List.mem_cons_of_mem _ among)) same_operations
        same_circumstances
      have same_direct : m.direct = n.direct :=
        (not_direct m List.mem_cons_self).trans (not_direct' n List.mem_cons_self).symm
      have same_moment : m = n := by
        cases m
        cases n
        simp_all
      rw [same_moment, rest]

theorem handled_eq_of_same_order {κ : Type v} [DecidableEq κ] {capacity capacity' : Nat}
    {client : Client} {t : Traffic ι} {u : Traffic κ}
    (reached : (start ι capacity client).Moves t) (reached' : (start κ capacity' client).Moves u)
    (same_order : beforeStop t.accepted = beforeStop u.accepted)
    (same_circumstances : t.circumstances = u.circumstances) : t.handled = u.handled := by
  have first := (List.prefix_append _ _).trans (accounted_of_moves reached).1.serialised.begun
  have second := (List.prefix_append _ _).trans (accounted_of_moves reached').1.serialised.begun
  have same_length : t.operations.length = u.operations.length := by
    simpa [circumstances, operations] using congrArg List.length same_circumstances
  have same_operations : t.operations = u.operations := by
    rw [← same_order] at second
    rw [List.prefix_iff_eq_take.mp first, List.prefix_iff_eq_take.mp second, same_length]
  exact moments_eq (direct_of_moves reached) (direct_of_moves reached') same_operations
    same_circumstances

/-- A worker whose operation was not cut off goes on, whatever the operation came to. -/
theorem exists_move_of_whole {t : Traffic ι} {current : Client} {operation : Operation}
    {here : Surroundings} {sending : Sending} (busy : t.intake.worker = .busy current operation)
    (whole : cutOff? here sending operation current = none) :
    ∃ u, t.Move u ∧ u.intake.queue = t.intake.queue ∧
      u.intake.worker = .idle (current.handle here sending.answer operation).client ∧
      u.handled = t.handled ++ [finished here sending operation] :=
  ⟨_, .finish here sending current operation _ busy whole (finish?_of_whole busy whole), rfl, rfl,
    rfl⟩

/-- An idle worker takes the message that has waited longest. -/
theorem exists_move_of_waiting {t : Traffic ι} {current : Client} {message : Message}
    {queue : List Message} (idle : t.intake.worker = .idle current)
    (waiting : t.intake.queue = message :: queue) :
    ∃ u, t.Move u ∧ u.intake = { t.intake with queue }.receive current message := by
  have takes : t.intake.take? = some ({ t.intake with queue }.receive current message) := by
    simp only [take?, idle, waiting]
  exact ⟨_, .take _ takes, rfl⟩

/-- **A client behind a queue is a client on its own.** Whatever number of threads submit messages
to an intake of whatever capacity, however they and the worker take turns, and whatever the worker
finds around the client: what it has done is `Serialised`. Nothing that is accepted after a message
to stop is ever begun. A worker takes what waits, and a failure does not end it. Once it has ended,
nothing more happens: what is submitted is refused, and a worker that panicked says so. With the
same order of acceptance and the same circumstances, two intakes over one client come to the same,
whatever their capacities, threads and turns. And whatever a client alone can be given to handle, an
intake of any capacity can come to have handled. -/
theorem serialises {κ : Type v} [DecidableEq κ] {capacity : Nat} {client : Client} {t : Traffic ι}
    (reached : (start ι capacity client).Moves t) :
    Serialised client t ∧
    (∀ m ∈ t.handled, m.direct = false) ∧
    (∀ u, t.Moves u → .stop ∈ t.accepted →
      u.operations ++ u.intake.worker.inHand <+: beforeStop t.accepted) ∧
    (∀ current message queue, t.intake.worker = .idle current →
      t.intake.queue = message :: queue →
      ∃ u, t.Move u ∧ u.intake = { t.intake with queue }.receive current message) ∧
    (∀ current operation here sending, t.intake.worker = .busy current operation →
      cutOff? here sending operation current = none →
      ∃ u, t.Move u ∧ u.intake.queue = t.intake.queue ∧
        u.intake.worker = .idle (current.handle here sending.answer operation).client ∧
        u.handled = t.handled ++ [finished here sending operation]) ∧
    (t.intake.worker.ended = true →
      (∀ message, t.intake.submit message = .refused) ∧
      ∀ u, t.Moves u → u.intake = t.intake ∧ u.handled = t.handled ∧ u.effects = t.effects ∧
        u.accepted = t.accepted) ∧
    (t.intake.worker = .panicked → t.intake.ending? = some (.error .intakePanicked)) ∧
    (∀ (capacity' : Nat) (u : Traffic κ), (start κ capacity' client).Moves u →
      beforeStop t.accepted = beforeStop u.accepted → t.circumstances = u.circumstances →
      t.handled = u.handled ∧
        (t.intake.worker ≠ .panicked → u.intake.worker ≠ .panicked → t.effects = u.effects) ∧
        ∀ mine yours, t.intake.worker.client? = some mine → u.intake.worker.client? = some yours →
          mine = yours) ∧
    ∀ (_ : ι) (moments : List Moment), (∀ m ∈ moments, m.direct = false) →
      ∃ u, (start ι capacity client).Moves u ∧ u.handled = moments ∧
        u.intake.worker = .idle (client.after moments) := by
  have serialised := (accounted_of_moves reached).1.serialised
  refine ⟨serialised, direct_of_moves reached, ?_, ?_, ?_, ?_, ?_, ?_, ?_⟩
  · intro u moves stops
    have begun := (accounted_of_moves (reached.trans moves)).1.serialised.begun
    obtain ⟨later, accepted_eq⟩ := accepted_of_moves moves
    rwa [← accepted_eq, beforeStop_append_of_stop stops] at begun
  · intro current message queue idle waiting
    exact exists_move_of_waiting idle waiting
  · intro current operation here sending busy whole
    exact exists_move_of_whole busy whole
  · intro ended
    exact ⟨fun message => submit_eq_refused_iff.mpr ended, fun u moves => of_ended ended moves⟩
  · intro panicked
    simp [ending?, panicked]
  · intro capacity' u reached' same_order same_circumstances
    have theirs := (accounted_of_moves reached').1.serialised
    have same_handled := handled_eq_of_same_order reached reached' same_order same_circumstances
    refine ⟨same_handled, ?_, ?_⟩
    · intro alive alive'
      rw [serialised.effects_eq alive, theirs.effects_eq alive', same_handled]
    · intro mine yours mine_eq yours_eq
      rw [serialised.client_eq mine mine_eq, theirs.client_eq yours yours_eq, same_handled]
  · intro thread moments handed_over
    obtain ⟨u, moves, handled_eq, idle, -⟩ :=
      exists_moves_of_handed_over thread capacity client handed_over
    exact ⟨u, moves, handled_eq, idle⟩

/-- One thread has one operation handled and another then stops the worker, over a queue with room
for one message. -/
theorem serialises_until_stop :
    let client : Client := { session := Session.load .memory ∅ }
    ∃ t : Traffic Bool, (start Bool 1 client).Moves t ∧
      t.accepted = [.operation .getIdentifiers, .stop] ∧ t.intake.worker = .stopped ∧
      t.operations = [.getIdentifiers] ∧
      t.effects.events = [.identityResponse client.identifiers] := by
  intro client
  let here : Surroundings :=
    { millis := 0, utcOffset := 0, freshSessionId := "", freshNotificationId := fun _ => ""
      facts := {} }
  have submitted := Relation.ReflTransGen.single
    (Move.submit (t := start Bool 1 client) true (.operation .getIdentifiers) rfl)
  have accepted := submitted.tail (.accept true _ _ rfl rfl)
  have taken := accepted.tail (.take _ rfl)
  have asked_to_stop := taken.tail (.submit false .stop rfl)
  have stop_accepted := asked_to_stop.tail (.accept false _ _ rfl rfl)
  have handled := stop_accepted.tail
    (.finish here (.answered (.error .malformedReply)) client .getIdentifiers _ rfl rfl rfl)
  have reached := handled.tail (.take _ rfl)
  have serialised := (serialises (κ := Bool) reached).1
  refine ⟨_, reached, rfl, rfl, (serialised.stopped rfl).2, ?_⟩
  rw [serialised.effects_eq nofun]
  rfl

end Traffic

end Intake

end ContentDelivery
