/-
ContentDelivery.Proofs.Client.Persistence — a client and its store.

Whatever a client does to its session and to the store is a sequence of
operations on the session (`isRun_act`): the reads before a request, what
it learns from the answer, what a configuration or a reset changes. So
what `Coherence` says of sessions holds of clients: over a faithful store
that nobody else writes, session and store agree at the end of every run
(`Run.coherent`).
-/
import ContentDelivery.Proofs.Client.Operations
import ContentDelivery.Proofs.Visitor.Coherence

namespace ContentDelivery

/-! ## Changes made of operations -/

namespace Session

/-- A change of a session that is what some operations do, one after another. -/
def IsRun (x : Session) (change : Change) : Prop :=
  ∃ operations : List Operation, x.run operations = change

theorem isRun_unchanged (x : Session) : x.IsRun x.unchanged := ⟨[], rfl⟩

theorem isRun_apply (operation : Operation) (x : Session) : x.IsRun (operation.apply x) :=
  ⟨[operation], by simp [run, Change.andThen, unchanged]⟩

theorem run_append (first second : List Operation) (x : Session) :
    x.run (first ++ second) = (x.run first).andThen (run second) := by
  induction second using List.reverseRecOn with
  | nil => simp [run, Change.andThen]
  | append_singleton second last ih =>
    rw [← List.append_assoc, run_concat, ih]
    simp [Change.andThen, run_concat]

namespace IsRun

variable {x : Session} {change : Change}

theorem andThen {f : Session → Change} (h : x.IsRun change)
    (goes_on : ∀ y : Session, y.IsRun (f y)) : x.IsRun (change.andThen f) := by
  obtain ⟨first, rfl⟩ := h
  obtain ⟨second, second_eq⟩ := goes_on (x.run first).session
  refine ⟨first ++ second, ?_⟩
  rw [run_append]
  simp only [Change.andThen, second_eq]

/-- What is coherent before a run is so after it. -/
theorem coherent {store : KeyValueStore σ} (faithful : store.Faithful) {s : σ} {ended : Bool}
    (h : x.IsRun change) (before : Coherent store s ended x) :
    ∃ ended, Coherent store (store.writeAll change.writes s) ended change.session := by
  obtain ⟨operations, rfl⟩ := h
  exact ⟨_, before.run faithful operations⟩

end IsRun

/-! ## What a client does to its session -/

theorem isRun_reading (here : Surroundings) (x : Session) : x.IsRun (x.reading here) :=
  (isRun_apply (.readEdgeHost here.seconds) x).andThen
    (isRun_apply (.readId here.seconds here.freshSessionId))

theorem isRun_absorb (now : Int64) (r : DeliveryReply) (x : Session) :
    x.IsRun (x.absorb now r) := by
  refine ((isRun_apply (.refresh now) x).andThen ?_).andThen ?_
  · intro y
    cases r.tntId? with
    | none => exact isRun_unchanged y
    | some id => exact isRun_apply (.setTntId (some id)) y
  · intro y
    cases r.edgeHost? with
    | none => exact isRun_unchanged y
    | some host => exact isRun_apply (.setEdgeHost (some host)) y

theorem isRun_learn (now : Int64) (answer : Except Failure HttpReply) (x : Session) :
    x.IsRun (x.learn now answer) := by
  unfold learn
  cases readable? answer with
  | none => exact isRun_unchanged x
  | some r => exact isRun_absorb now r x

end Session

namespace Client

theorem isRun_reconfigured (configuration : Configuration) (c : Client) :
    c.session.IsRun (c.reconfigured configuration) := by
  have edge_host : c.session.IsRun (if c.changesClientCode configuration
      then c.session.setEdgeHost none else c.session.unchanged) := by
    split
    · exact Session.isRun_apply (.setEdgeHost none) c.session
    · exact Session.isRun_unchanged c.session
  exact edge_host.andThen (Session.isRun_apply (.setTimeout _))

theorem isRun_configure (configuration : Configuration) (c : Client) :
    c.session.IsRun
      { session := (c.configure configuration).client.session
        writes := (c.configure configuration).writes } := by
  by_cases optedOut : configuration.privacy = .optedOut
  · rw [configure_of_optedOut optedOut]
    exact (c.isRun_reconfigured configuration).andThen (Session.isRun_apply .forget)
  · rw [configure_of_not_optedOut optedOut]
    exact c.isRun_reconfigured configuration

theorem isRun_setThirdPartyId (id : Option String) (c : Client) :
    c.session.IsRun
      { session := (c.setThirdPartyId id).client.session
        writes := (c.setThirdPartyId id).writes } := by
  unfold setThirdPartyId
  split
  · exact Session.isRun_unchanged c.session
  · exact Session.isRun_apply (.setThirdPartyId id) c.session

theorem isRun_perform (here : Surroundings) (answer : Except Failure HttpReply) (call : Call)
    (c : Client) :
    c.session.IsRun
      { session := (c.perform here answer call).client.session
        writes := (c.perform here answer call).writes } := by
  rcases perform_cases here answer call c with refused | ⟨_, stranded⟩ | ⟨_, _, sent⟩
  · rw [refused.client, refused.writes]
    exact Session.isRun_unchanged c.session
  · rw [stranded.client, stranded.writes]
    exact Session.isRun_reading here c.session
  · rw [sent.session, sent.writes]
    exact (Session.isRun_reading here c.session).andThen (Session.isRun_learn here.seconds answer)

/-- **Clients change sessions and stores by operations on sessions only.** -/
theorem isRun_act (m : Moment) (c : Client) :
    c.session.IsRun { session := (c.act m).client.session, writes := (c.act m).writes } := by
  rw [client_act, writes_act]
  cases m.operation with
  | call call => exact c.isRun_perform m.here m.answer call
  | reset => exact Session.isRun_apply .forget c.session
  | setThirdPartyId id => exact c.isRun_setThirdPartyId id
  | getIdentifiers => exact Session.isRun_unchanged c.session
  | configure configuration => exact c.isRun_configure configuration

theorem isRun_start (store : KeyValueStore σ) (s : σ) (configuration : Option Configuration) :
    (Session.load store s).IsRun
      { session := (start store s configuration).client.session
        writes := (start store s configuration).writes } := by
  cases configuration with
  | none => exact Session.isRun_unchanged (Session.load store s)
  | some configuration => exact isRun_configure configuration { session := Session.load store s }

end Client

/-! ## Runs -/

namespace Run

theorem coherent_start {store : KeyValueStore σ} (faithful : store.Faithful) (contents : σ)
    (configuration : Option Configuration) :
    let start := Client.start store contents configuration
    ∃ ended, Session.Coherent store (store.writeAll start.writes contents) ended
      start.client.session :=
  (Client.isRun_start store contents configuration).coherent faithful
    (Session.coherent_load store contents)

/-- Over a faithful store that nobody else writes, session and store agree at the end of a run. -/
theorem coherent (r : Run σ) (faithful : r.store.Faithful) :
    ∃ ended, Session.Coherent r.store r.stored ended r.client.session := by
  induction r using Run.induction with
  | start store contents configuration =>
    have started := coherent_start faithful contents configuration
    simpa [stored, writes, laps, Client.laps, client, Client.after, start] using started
  | next r m ih =>
    obtain ⟨ended, before⟩ := ih faithful
    rw [client_next, stored_next]
    exact (r.client.isRun_act m).coherent faithful before

end Run

end ContentDelivery
