/-
ContentDelivery.Client.Intake — a queue of operations before a client.

A worker owns the client. It takes one message at a time from a queue of
limited capacity, in the order in which they were accepted, and finishes
an operation before it takes the next. A queue without capacity hands
each message to an idle worker at once. The worker ends at a message to
stop, or when the transport breaks down during a request; from then on
nothing is accepted, and what is left in the queue is dropped.
-/
import ContentDelivery.Client.Basic

namespace ContentDelivery

namespace Intake

inductive Message where
  | operation (o : Operation)
  | stop
deriving DecidableEq

/-- How the transport comes back from a request. -/
inductive Sending where
  | answered (answer : Except Failure HttpReply)
  | panicked

inductive Worker where
  | idle (client : Client)
  | busy (client : Client) (operation : Operation)
  | stopped
  | panicked

end Intake

structure Intake where
  capacity : Nat
  /-- The messages that wait for the worker, the oldest first. -/
  queue : List Intake.Message
  worker : Intake.Worker

namespace Intake

/-- How many messages may wait unless the host decides otherwise. -/
def defaultCapacity : Nat := 64

def start (capacity : Nat) (client : Client) : Intake :=
  { capacity, queue := [], worker := .idle client }

/-! ## Accepting messages -/

/-- What becomes of a message that is submitted. -/
inductive Submission where
  | accepted (intake : Intake)
  /-- The message has to wait: there is no room for it. -/
  | blocked
  /-- The worker has ended. -/
  | refused

/-- Why a message is refused. -/
def refusal : Failure := .intakeStopped

/-- An idle worker takes a message. -/
def receive (client : Client) (message : Message) (i : Intake) : Intake :=
  match message with
  | .operation o => { i with worker := .busy client o }
  | .stop => { i with queue := [], worker := .stopped }

def submit (message : Message) (i : Intake) : Submission :=
  match i.worker with
  | .stopped | .panicked => .refused
  | .idle client =>
    if i.capacity = 0 then .accepted (i.receive client message)
    else if i.queue.length < i.capacity then .accepted { i with queue := i.queue ++ [message] }
    else .blocked
  | .busy _ _ =>
    if i.queue.length < i.capacity then .accepted { i with queue := i.queue ++ [message] }
    else .blocked

/-! ## Work -/

/-- What the worker did, as others see it. -/
structure Progress where
  intake : Intake
  request : Option HttpRequest := none
  events : List Event := []
  writes : List StoreEdit := []

/-- The worker takes the oldest message, if it is idle and there is one. -/
def take? (i : Intake) : Option Intake :=
  match i.worker, i.queue with
  | .idle client, message :: queue => some ({ i with queue }.receive client message)
  | _, _ => none

/-- The call that a breakdown of the transport cuts off: one whose request is sent. -/
def cutOff? (here : Surroundings) (sending : Sending) (operation : Operation) (client : Client) :
    Option (HttpRequest × List StoreEdit) :=
  match sending, operation with
  | .panicked, .call call =>
    let departure := client.begin here call
    departure.request.toOption.map fun request => (request, departure.writes)
  | _, _ => none

/-- What the client is answered; a breakdown answers nothing that a client would see. -/
def Sending.answer : Sending → Except Failure HttpReply
  | answered answer => answer
  | panicked => .error .intakePanicked

/-- The worker finishes what it is busy with. A failure does not end it. -/
def finish? (here : Surroundings) (sending : Sending) (i : Intake) : Option Progress :=
  match i.worker with
  | .busy client operation =>
    match cutOff? here sending operation client with
    | some (request, writes) =>
      some
        { intake := { i with queue := [], worker := .panicked }
          request := some request
          writes }
    | none =>
      let step := client.handle here sending.answer operation
      some
        { intake := { i with worker := .idle step.client }
          request := step.request
          events := step.events
          writes := step.writes }
  | _ => none

/-- How the worker ended, if it has. -/
def ending? (i : Intake) : Option (Except Failure Unit) :=
  match i.worker with
  | .stopped => some (.ok ())
  | .panicked => some (.error .intakePanicked)
  | _ => none

end Intake

end ContentDelivery
