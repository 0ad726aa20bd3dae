/-
ContentDelivery.Proofs.Client.Run — runs of a client.

A run starts a client over a store and asks operations of it one after
another. Between two of them everything around the client may change:
the clock (also backwards), the host's facts, the ids that are made. What
the transport would answer is part of each moment, so a run quantifies
over every sequence of answers. An operation is either handed over, and
its outcome published, or called directly; both leave the same client,
send the same request and write the same (`client_act`, `request_act`,
`writes_act`).

`Run.induction` is how every statement about runs is proved: it holds of
a client that was only started, and each operation keeps it.
-/
import ContentDelivery.Client.Basic
import Mathlib.Data.List.Induction

namespace ContentDelivery

/-! ## Single operations -/

/-- What the host gets back. -/
inductive Outcome where
  /-- From an operation that was handed over. -/
  | handled (result : Except Failure Unit)
  /-- From a call that was made directly. -/
  | content (result : Except Failure ContentMap)
  | identifiers (visitor : IdentityState)
  | done

/-- An operation, what it finds around the client, and what the transport would answer. -/
structure Moment where
  here : Surroundings
  answer : Except Failure HttpReply
  operation : Operation
  /-- Whether the operation is called directly, so that its outcome is not published. -/
  direct : Bool

namespace Client

/-- Any operation called directly. -/
def direct (here : Surroundings) (answer : Except Failure HttpReply) (operation : Operation)
    (c : Client) : Step Outcome :=
  match operation with
  | .call call =>
    let step := c.perform here answer call
    { step with result := .content step.result }
  | .reset => { c.reset with result := .done }
  | .setThirdPartyId id => { c.setThirdPartyId id with result := .done }
  | .getIdentifiers => { client := c, result := .identifiers c.identifiers }
  | .configure configuration => { c.configure configuration with result := .done }

def act (m : Moment) (c : Client) : Step Outcome :=
  if m.direct then c.direct m.here m.answer m.operation
  else
    let step := c.handle m.here m.answer m.operation
    { step with result := .handled step.result }

theorem client_act (m : Moment) (c : Client) :
    (c.act m).client = (c.handle m.here m.answer m.operation).client := by
  unfold act
  split
  · cases m.operation <;> rfl
  · rfl

theorem client_act_of {m : Moment} {operation : Operation} (h : m.operation = operation)
    (c : Client) : (c.act m).client = (c.handle m.here m.answer operation).client := by
  rw [client_act, h]

theorem client_act_call {m : Moment} {call : Call} (h : m.operation = .call call) (c : Client) :
    (c.act m).client = (c.perform m.here m.answer call).client := client_act_of h c

theorem request_act (m : Moment) (c : Client) :
    (c.act m).request = (c.handle m.here m.answer m.operation).request := by
  unfold act
  split
  · cases m.operation <;> rfl
  · rfl

theorem request_act_call {m : Moment} {call : Call} (h : m.operation = .call call) (c : Client) :
    (c.act m).request = (c.perform m.here m.answer call).request := by
  rw [request_act, h]
  rfl

theorem writes_act (m : Moment) (c : Client) :
    (c.act m).writes = (c.handle m.here m.answer m.operation).writes := by
  unfold act
  split
  · cases m.operation <;> rfl
  · rfl

theorem writes_act_call {m : Moment} {call : Call} (h : m.operation = .call call) (c : Client) :
    (c.act m).writes = (c.perform m.here m.answer call).writes := by
  rw [writes_act, h]
  rfl

theorem result_act_call {m : Moment} {call : Call} (h : m.operation = .call call) (c : Client) :
    (c.act m).result =
      let result := (c.perform m.here m.answer call).result
      if m.direct then .content result else .handled (result.map fun _ => ()) := by
  unfold act
  cases m.direct <;> simp [h, direct, handle]

end Client

/-! ## Laps -/

/-- One operation of a run, with the client before it. -/
structure Lap where
  before : Client
  moment : Moment

/-- What the operation of a lap did. -/
def Lap.step (l : Lap) : Step Outcome := l.before.act l.moment

namespace Client

/-- The client after some operations. -/
def after (moments : List Moment) (c : Client) : Client :=
  moments.foldl (fun c m => (c.act m).client) c

/-- The operations in their order, each with the client before it. -/
def laps : List Moment → Client → List Lap
  | [], _ => []
  | m :: moments, c => { before := c, moment := m } :: laps moments (c.act m).client

theorem after_concat (moments : List Moment) (m : Moment) (c : Client) :
    c.after (moments ++ [m]) = ((c.after moments).act m).client := by
  simp [after]

theorem laps_concat (moments : List Moment) (m : Moment) (c : Client) :
    c.laps (moments ++ [m]) = c.laps moments ++ [{ before := c.after moments, moment := m }] := by
  induction moments generalizing c with
  | nil => rfl
  | cons first moments ih =>
    rw [List.cons_append, laps, laps, ih]
    rfl

/-- The laps of a run can be parted anywhere: what comes later are the laps of the client there. -/
theorem exists_moments_of_laps {moments : List Moment} {c : Client} {first second : List Lap}
    (split : c.laps moments = first ++ second) :
    ∃ earlier later, moments = earlier ++ later ∧ first = c.laps earlier ∧
      second = (c.after earlier).laps later := by
  induction first generalizing moments c with
  | nil => exact ⟨[], moments, rfl, rfl, split.symm⟩
  | cons l first ih =>
    cases moments with
    | nil => cases split
    | cons m moments =>
      obtain ⟨rfl, rest⟩ := List.cons.inj split
      obtain ⟨earlier, later, rfl, rfl, rfl⟩ := ih rest
      exact ⟨m :: earlier, later, rfl, rfl, rfl⟩

end Client

/-! ## Runs -/

/-- A client over a store, and what was asked of it since it was started, the first first. -/
structure Run (σ : Type u) where
  store : KeyValueStore σ
  /-- What the store held before. -/
  contents : σ
  /-- The configuration that the client was started with. -/
  configuration : Option Configuration
  moments : List Moment := []

namespace Run

def start (r : Run σ) : Step Unit := Client.start r.store r.contents r.configuration

/-- The client at the end. -/
def client (r : Run σ) : Client := r.start.client.after r.moments

def laps (r : Run σ) : List Lap := r.start.client.laps r.moments

/-- All writes, in their order. -/
def writes (r : Run σ) : List StoreEdit := r.start.writes ++ r.laps.flatMap fun l => l.step.writes

/-- What the store holds at the end, if nobody else writes it. -/
def stored (r : Run σ) : σ := r.store.writeAll r.writes r.contents

/-- The run that goes on with one more operation. -/
def next (m : Moment) (r : Run σ) : Run σ := { r with moments := r.moments ++ [m] }

/-- The run that goes on with some operations. -/
def extend (moments : List Moment) (r : Run σ) : Run σ := { r with moments := r.moments ++ moments }

/-- The lap that an operation adds. -/
def lap (m : Moment) (r : Run σ) : Lap := { before := r.client, moment := m }

@[simp] theorem client_next (m : Moment) (r : Run σ) :
    (r.next m).client = (r.client.act m).client := Client.after_concat r.moments m r.start.client

@[simp] theorem laps_next (m : Moment) (r : Run σ) : (r.next m).laps = r.laps ++ [r.lap m] :=
  Client.laps_concat r.moments m r.start.client

@[simp] theorem writes_next (m : Moment) (r : Run σ) :
    (r.next m).writes = r.writes ++ (r.client.act m).writes := by
  rw [writes, laps_next, List.flatMap_append, ← List.append_assoc]
  simp [writes, lap, Lap.step, start, next]

@[simp] theorem stored_next (m : Moment) (r : Run σ) :
    (r.next m).stored = r.store.writeAll (r.client.act m).writes r.stored := by
  rw [stored, writes_next, KeyValueStore.writeAll_append]
  rfl

/-- What holds of every client that was only started, and is kept by each operation, holds at the
end of every run. -/
@[elab_as_elim]
theorem induction {motive : Run σ → Prop}
    (start : ∀ store contents configuration, motive { store, contents, configuration })
    (next : ∀ r m, motive r → motive (r.next m)) (r : Run σ) : motive r := by
  obtain ⟨store, contents, configuration, moments⟩ := r
  induction moments using List.reverseRecOn with
  | nil => exact start store contents configuration
  | append_singleton moments m ih => exact next { store, contents, configuration, moments } m ih

end Run

end ContentDelivery
