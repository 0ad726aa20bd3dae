/-
ContentDelivery.Proofs.Client.Ledger — what becomes of reports.

`reports_conserved`: no report of a display or of a click is lost, made
twice or overtaken by another. In every run, what was ever added to the
pending reports is, each report once, in the payload of a request, still
pending, or was dropped when the visitor was forgotten while it was
pending. What was sent, followed by what is pending, is in the order in
which it was made.

All of that follows from one equation about a single operation
(`Lap.conserves`): what it sent, what it dropped and what is pending
after it are together, in this order, what was pending before it and
what it added. The order of the three parts matters only because at most
one of the first two is not empty.
-/
import ContentDelivery.Proofs.Client.Operations
import Mathlib.Data.List.Perm.Basic

namespace ContentDelivery

/-! ## One lap -/

namespace Lap

/-- The reports that the operation added to the pending ones. -/
def made (l : Lap) : List Notification :=
  match l.moment.operation with
  | .call call => l.before.reports l.moment.here call
  | .reset | .setThirdPartyId _ | .getIdentifiers | .configure _ => []

/-- The reports that the request of the lap took along, if there was one. -/
def sent (l : Lap) : List Notification :=
  match l.step.request with
  | some request => request.payload.notifications
  | none => []

/-- The pending reports that were dropped because the visitor was forgotten. -/
def discarded (l : Lap) : List Notification :=
  if l.moment.operation.forgets then l.before.pending else []

theorem sent_of_request {l : Lap} {request : HttpRequest} (h : l.step.request = some request) :
    l.sent = request.payload.notifications := by
  simp [sent, h]

theorem sent_of_no_request {l : Lap} (h : l.step.request = none) : l.sent = [] := by
  simp [sent, h]

theorem made_of_call {l : Lap} {call : Call} (h : l.moment.operation = .call call) :
    l.made = l.before.reports l.moment.here call := by
  simp [made, h]

/-- A request takes along all that is pending, with the reports of its own call last. -/
theorem sent_eq_of_request {l : Lap} {request : HttpRequest} (h : l.step.request = some request) :
    l.sent = l.before.pending ++ l.made ∧ l.discarded = [] ∧ l.step.client.pending = [] := by
  obtain ⟨call, configuration, is_call, sent⟩ := Client.exists_sent_of_request h
  refine ⟨?_, ?_, ?_⟩
  · rw [sent_of_request h, made_of_call is_call]
    exact DeliveryRequest.notifications_of_assemble sent.payload
  · simp [discarded, is_call, Operation.forgets]
  · rw [step, Client.client_act_call is_call]
    exact sent.pending

/-- Whatever kept a call from sending its request, also an endpoint that is no URL, the reports
stay, with those of the call added. -/
theorem pending_of_no_request {l : Lap} (h : l.step.request = none)
    (remembers : l.moment.operation.forgets = false) :
    l.step.client.pending = l.before.pending ++ l.made := by
  cases op : l.moment.operation with
  | call call =>
    rw [step, Client.request_act_call op] at h
    rw [step, Client.client_act_call op, made_of_call op]
    rcases Client.perform_cases l.moment.here l.moment.answer call l.before with refused |
      ⟨_, stranded⟩ | ⟨_, _, sent⟩
    · rw [refused.client, refused.reports, List.append_nil]
    · rw [stranded.client]
    · rw [sent.request] at h
      cases h
  | reset => simp [op, Operation.forgets] at remembers
  | setThirdPartyId id =>
    have nothing_made : l.made = [] := by simp [made, op]
    rw [nothing_made, List.append_nil, step, Client.client_act_of op]
    exact Client.pending_setThirdPartyId id l.before
  | getIdentifiers =>
    have nothing_made : l.made = [] := by simp [made, op]
    rw [nothing_made, List.append_nil, step, Client.client_act_of op]
    rfl
  | configure configuration =>
    have nothing_made : l.made = [] := by simp [made, op]
    have not_optedOut : configuration.privacy ≠ .optedOut := by
      simpa [op, Operation.forgets] using remembers
    rw [nothing_made, List.append_nil, step, Client.client_act_of op]
    exact (Client.pending_configure configuration l.before).trans (if_neg not_optedOut)

theorem pending_of_forgets {l : Lap} (forgets : l.moment.operation.forgets = true) :
    l.made = [] ∧ l.step.client.pending = [] := by
  obtain ⟨_, client_eq⟩ := Client.exists_forget_of_forgets forgets l.before
  refine ⟨?_, congrArg Client.pending client_eq⟩
  rcases Operation.forgets_iff.mp forgets with op | ⟨_, op, -⟩ <;> simp [made, op]

/-- **What an operation does to the reports.** -/
theorem conserves (l : Lap) :
    l.sent ++ l.discarded ++ l.step.client.pending = l.before.pending ++ l.made := by
  cases h : l.step.request with
  | some request =>
    obtain ⟨all, nothing_discarded, nothing_pending⟩ := sent_eq_of_request h
    simp [all, nothing_discarded, nothing_pending]
  | none =>
    cases forgets : l.moment.operation.forgets with
    | true =>
      obtain ⟨nothing_made, nothing_pending⟩ := pending_of_forgets forgets
      simp [sent_of_no_request h, discarded, forgets, nothing_made, nothing_pending]
    | false =>
      simp [sent_of_no_request h, discarded, forgets, pending_of_no_request h forgets]

end Lap

/-! ## Runs -/

namespace Run

variable {σ : Type u}

/-- All reports that were ever added to the pending ones, in the order in which they were made. -/
def made (r : Run σ) : List Notification := r.laps.flatMap Lap.made

/-- The reports of all payloads, one payload after another. -/
def sent (r : Run σ) : List Notification := r.laps.flatMap Lap.sent

/-- All reports that were dropped with the visitor. -/
def discarded (r : Run σ) : List Notification := r.laps.flatMap Lap.discarded

@[simp] theorem made_next (m : Moment) (r : Run σ) :
    (r.next m).made = r.made ++ (r.lap m).made := by
  simp [made]

@[simp] theorem sent_next (m : Moment) (r : Run σ) :
    (r.next m).sent = r.sent ++ (r.lap m).sent := by
  simp [sent]

@[simp] theorem discarded_next (m : Moment) (r : Run σ) :
    (r.next m).discarded = r.discarded ++ (r.lap m).discarded := by
  simp [discarded]

/-- What the next operation does to the reports. -/
theorem conserves_next (m : Moment) (r : Run σ) :
    (r.lap m).sent ++ (r.lap m).discarded ++ (r.next m).client.pending =
      r.client.pending ++ (r.lap m).made := by
  rw [client_next]
  exact (r.lap m).conserves

/-- Every report is in one of the three places, as often as it was made. -/
theorem perm_made (r : Run σ) : (r.sent ++ r.discarded ++ r.client.pending).Perm r.made := by
  induction r using Run.induction with
  | start store contents configuration =>
    have none_pending := Client.pending_start store contents configuration
    simpa [sent, discarded, made, laps, Client.laps, client, Client.after, start] using none_pending
  | next r m ih =>
    rw [made_next, sent_next, discarded_next]
    -- The new part of what was sent moves behind what was discarded before.
    have moved : (r.sent ++ (r.lap m).sent ++ (r.discarded ++ (r.lap m).discarded) ++
        (r.next m).client.pending).Perm
        (r.sent ++ r.discarded ++
          ((r.lap m).sent ++ (r.lap m).discarded ++ (r.next m).client.pending)) := by
      simp only [List.append_assoc]
      exact (List.perm_append_comm_assoc _ _ _).append_left r.sent
    have added := ih.append_right (r.lap m).made
    rw [conserves_next] at moved
    rw [List.append_assoc (r.sent ++ r.discarded)] at added
    exact moved.trans added

/-- What was sent, followed by what is pending, is in the order in which it was made. -/
theorem sublist_made (r : Run σ) : (r.sent ++ r.client.pending).Sublist r.made := by
  induction r using Run.induction with
  | start store contents configuration =>
    have none_pending := Client.pending_start store contents configuration
    simpa [sent, made, laps, Client.laps, client, Client.after, start] using none_pending
  | next r m ih =>
    rw [made_next, sent_next, List.append_assoc]
    have kept : ((r.lap m).sent ++ (r.next m).client.pending).Sublist
        (r.client.pending ++ (r.lap m).made) := by
      rw [← conserves_next]
      exact (List.sublist_append_left _ _).append (List.Sublist.refl _)
    have later := ih.append (List.Sublist.refl (r.lap m).made)
    rw [List.append_assoc] at later
    exact ((List.Sublist.refl r.sent).append kept).trans later

/-- **Reports are conserved.** At the end of every run, each report that was ever made is, unchanged
and once, in the payload of a request, among those dropped with the visitor, or still pending (so
that no id is in two places if no two were made with one id), and what was sent, followed by what is
pending, is in the order in which it was made. Whatever comes next, a request takes along all that
is pending and leaves nothing; an operation without a request keeps all that was pending and adds
the reports of its own, unless it forgets the visitor; and a call fails before its request only for
want of an endpoint, or with the client as it was. So it never fails once the pending reports were
taken out: from then on there is something to send, and a payload is assembled of it. -/
theorem reports_conserved (r : Run σ) :
    (r.sent ++ r.discarded ++ r.client.pending).Perm r.made ∧
    ((r.made.map Notification.id).Nodup →
      ((r.sent ++ r.discarded ++ r.client.pending).map Notification.id).Nodup) ∧
    (r.sent ++ r.client.pending).Sublist r.made ∧
    (∀ m request, (r.client.act m).request = some request →
      request.payload.notifications = r.client.pending ++ (r.lap m).made ∧
      (r.next m).client.pending = []) ∧
    (∀ m, (r.client.act m).request = none → m.operation.forgets = false →
      (r.next m).client.pending = r.client.pending ++ (r.lap m).made) ∧
    (∀ here call failure, (r.client.begin here call).request = .error failure →
      failure = .invalidUrl ∨ (r.client.begin here call).client = r.client) ∧
    (∀ (here : Surroundings) (call : Call) (configuration : Configuration),
      let pending := r.client.pending ++ r.client.reports here call
      (call.selection.isEmpty && pending.isEmpty) = false →
      ∃ payload, DeliveryRequest.assemble here.facts here.utcOffset configuration
          r.client.session.identity call.selection call.parameters pending = .ok payload ∧
        payload.notifications = pending) := by
  refine ⟨r.perm_made, ?_, r.sublist_made, ?_, ?_, ?_, ?_⟩
  · intro distinct
    exact (r.perm_made.map Notification.id).nodup_iff.mpr distinct
  · intro m request h
    obtain ⟨all, -, nothing_pending⟩ := (r.lap m).sent_eq_of_request h
    have taken : (r.lap m).sent = request.payload.notifications := Lap.sent_of_request h
    rw [client_next]
    exact ⟨taken.symm.trans all, nothing_pending⟩
  · intro m h remembers
    rw [client_next]
    exact (r.lap m).pending_of_no_request h remembers
  · intro here call failure h
    exact Client.begin_of_failure h
  · intro here call configuration pending something
    exact DeliveryRequest.assemble_of_nonempty here.facts here.utcOffset configuration
      r.client.session.identity call.parameters something

end Run

end ContentDelivery
