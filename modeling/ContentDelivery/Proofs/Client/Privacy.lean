/-
ContentDelivery.Proofs.Client.Privacy — what the visitor's consent decides.

`gated_by_privacy` has two parts. Requests are sent only while a
configuration with a client code is in effect whose visitor opted in.
And a client whose visitor opted out is `Blank` and has `Erased` its
store, until a configuration with another status arrives.

Both properties of an opted-out client come from the operation that last
forgot the visitor. `act_cases_of_optedOut` is the reason: an operation
that ends with the visitor opted out did nothing at all, or ended in
forgetting. That the store is erased also needs the agreement of store
and session (`Run.coherent`), since forgetting does not remove an edge
host that the session does not have.
-/
import ContentDelivery.Proofs.Client.Persistence

namespace ContentDelivery

namespace Client

/-- The configuration in effect says that the visitor opted out. -/
def HasOptedOut (c : Client) : Prop :=
  c.configuration.map Configuration.privacy = some .optedOut

/-- A client that knows nothing of its visitor. -/
structure Blank (c : Client) : Prop where
  tntId : c.session.tntId = none
  thirdPartyId : c.session.thirdPartyId = none
  edgeHost : c.session.edgeHost = none
  sessionId : c.session.id = ""
  prefetched : c.cache.prefetched = ∅
  loaded : c.cache.loaded = ∅
  pending : c.pending = []

/-! ## Requests and configurations -/

theorem optedIn_of_request {m : Moment} {c : Client} {request : HttpRequest}
    (h : (c.act m).request = some request) :
    ∃ configuration, c.configuration = some configuration ∧ configuration.clientCode ≠ "" ∧
      configuration.privacy = .optedIn := by
  obtain ⟨_, configuration, -, sent⟩ := exists_sent_of_request h
  exact ⟨configuration, Configuration.forRequests_eq_ok.mp sent.allowed⟩

/-- A visitor who opted out stays so as long as no configuration says otherwise. -/
theorem HasOptedOut.act {c : Client} (h : c.HasOptedOut) {m : Moment}
    (stays : ∀ configuration, m.operation = .configure configuration →
      configuration.privacy = .optedOut) : (c.act m).client.HasOptedOut := by
  unfold HasOptedOut
  rw [configuration_act]
  split
  · next configuration op => exact congrArg some (stays configuration op)
  all_goals exact h

/-! ## Clients whose visitor opted out -/

theorem blank_of_forget {c : Client} {x : Session} (session : c.session = x.forget.session)
    (cache : c.cache = {}) (pending : c.pending = []) : c.Blank where
  tntId := by rw [session, Session.session_forget]
  thirdPartyId := by rw [session, Session.session_forget]
  edgeHost := by rw [session, Session.session_forget]
  sessionId := by rw [session, Session.session_forget]
  prefetched := by rw [cache]
  loaded := by rw [cache]
  pending := pending

theorem refused_of_optedOut {c : Client} (h : c.HasOptedOut) (here : Surroundings)
    (answer : Except Failure HttpReply) (call : Call) :
    Refused here call c (c.perform here answer call) := by
  refine refused_of_not_attempts answer ?_
  cases checked : Configuration.forRequests c.configuration with
  | error failure => exact not_attempts_of_refusal checked here call
  | ok configuration =>
    obtain ⟨in_effect, -, optedIn⟩ := Configuration.forRequests_eq_ok.mp checked
    rw [HasOptedOut, in_effect, Option.map_some, optedIn] at h
    cases h

/-- A configuration of a visitor who opted out ends in forgetting, after what any configuration
does. -/
theorem configure_of_hasOptedOut {configuration : Configuration} {c : Client}
    (h : (c.configure configuration).client.HasOptedOut) :
    (c.configure configuration).client.Blank ∧
      (c.configure configuration).writes =
        (c.reconfigured configuration).writes ++
          (c.reconfigured configuration).session.forget.writes := by
  have optedOut : configuration.privacy = .optedOut := by
    rw [HasOptedOut, configuration_configure] at h
    exact Option.some.inj h
  rw [configure_of_optedOut optedOut]
  exact ⟨blank_of_forget rfl rfl rfl, rfl⟩

/-- **An operation that ends with the visitor opted out** did nothing, or ended in forgetting. -/
theorem act_cases_of_optedOut {m : Moment} {c : Client} (h : (c.act m).client.HasOptedOut) :
    ((c.act m).client = c ∧ (c.act m).writes = []) ∨
    ((c.act m).client.Blank ∧ ∃ change, c.session.IsRun change ∧
      (c.act m).writes = change.writes ++ change.session.forget.writes) := by
  have configuration_eq := configuration_act m c
  rw [client_act] at h configuration_eq ⊢
  rw [writes_act]
  cases op : m.operation with
  | call call =>
    left
    have optedOut : c.HasOptedOut := by
      rw [HasOptedOut, configuration_eq, op] at h
      exact h
    have refused := refused_of_optedOut optedOut m.here m.answer call
    exact ⟨refused.client, refused.writes⟩
  | reset =>
    right
    refine ⟨blank_of_forget (x := c.session) rfl rfl rfl, c.session.unchanged,
      Session.isRun_unchanged c.session, ?_⟩
    rfl
  | setThirdPartyId id =>
    left
    have optedOut : c.HasOptedOut := by
      rw [HasOptedOut, configuration_eq, op] at h
      exact h
    rw [HasOptedOut] at optedOut
    simp [handle, setThirdPartyId, optedOut]
  | getIdentifiers => exact .inl ⟨rfl, rfl⟩
  | configure configuration =>
    right
    rw [op] at h
    obtain ⟨blank, writes_eq⟩ := configure_of_hasOptedOut h
    exact ⟨blank, c.reconfigured configuration, c.isRun_reconfigured configuration, writes_eq⟩

end Client

/-! ## Runs -/

namespace Run

theorem blank_of_optedOut (r : Run σ) (h : r.client.HasOptedOut) : r.client.Blank := by
  induction r using Run.induction with
  | start store contents configuration =>
    cases configuration with
    | none => cases h
    | some configuration =>
      exact (Client.configure_of_hasOptedOut (c := { session := Session.load store contents }) h).1
  | next r m ih =>
    rw [client_next] at h ⊢
    rcases Client.act_cases_of_optedOut h with ⟨same, -⟩ | ⟨blank, -⟩
    · rw [same] at h ⊢
      exact ih h
    · exact blank

theorem erased_of_optedOut (r : Run σ) (faithful : r.store.Faithful) (h : r.client.HasOptedOut) :
    Session.Erased r.store r.stored := by
  induction r using Run.induction with
  | start store contents configuration =>
    cases configuration with
    | none => cases h
    | some configuration =>
      obtain ⟨-, writes_eq⟩ :=
        Client.configure_of_hasOptedOut (c := { session := Session.load store contents }) h
      obtain ⟨ended, coherent⟩ :=
        (Client.isRun_reconfigured configuration
          { session := Session.load store contents }).coherent faithful
          (Session.coherent_load store contents)
      have erased := coherent.erased_forget faithful
      rw [← KeyValueStore.writeAll_append, ← writes_eq] at erased
      simpa [stored, writes, laps, Client.laps, start, Client.start] using erased
  | next r m ih =>
    rw [client_next] at h
    rw [stored_next]
    rcases Client.act_cases_of_optedOut h with ⟨same, nothing_written⟩ |
      ⟨-, change, is_run, writes_eq⟩
    · rw [same] at h
      rw [nothing_written]
      exact ih faithful h
    · obtain ⟨_, before⟩ := r.coherent faithful
      obtain ⟨_, coherent⟩ := is_run.coherent faithful before
      rw [writes_eq, KeyValueStore.writeAll_append]
      exact coherent.erased_forget faithful

theorem optedOut_extend (r : Run σ) (h : r.client.HasOptedOut) {later : List Moment}
    (stays : ∀ m ∈ later, ∀ configuration, m.operation = .configure configuration →
      configuration.privacy = .optedOut) : (r.extend later).client.HasOptedOut := by
  induction later using List.reverseRecOn with
  | nil => simpa [extend] using h
  | append_singleton later m ih =>
    have before := ih fun earlier among => stays earlier (List.mem_append_left _ among)
    have extend_eq : r.extend (later ++ [m]) = (r.extend later).next m := by simp [extend, next]
    rw [extend_eq, client_next]
    exact before.act (stays m (by simp))

/-- **Privacy gates everything.** Starting a client sends no request, and an operation sends one
only if a configuration with a client code is in effect whose visitor opted in. At the end of every
run with the visitor opted out, the client is blank, and what a faithful store that nobody else
writes holds of the visitor is erased. It stays so however the run goes on, as long as no
configuration with another status arrives. -/
theorem gated_by_privacy (r : Run σ) :
    r.start.request = none ∧
    (∀ m request, (r.client.act m).request = some request →
      ∃ configuration, r.client.configuration = some configuration ∧
        configuration.clientCode ≠ "" ∧ configuration.privacy = .optedIn) ∧
    (r.client.HasOptedOut →
      r.client.Blank ∧ (r.store.Faithful → Session.Erased r.store r.stored)) ∧
    (r.client.HasOptedOut → ∀ later : List Moment,
      (∀ m ∈ later, ∀ configuration, m.operation = .configure configuration →
        configuration.privacy = .optedOut) →
      (r.extend later).client.HasOptedOut ∧ (r.extend later).client.Blank ∧
        (r.store.Faithful → Session.Erased r.store (r.extend later).stored)) := by
  refine ⟨?_, ?_, ?_, ?_⟩
  · exact Client.request_start r.store r.contents r.configuration
  · intro m request h
    exact Client.optedIn_of_request h
  · intro optedOut
    exact ⟨r.blank_of_optedOut optedOut, fun faithful => r.erased_of_optedOut faithful optedOut⟩
  · intro optedOut later stays
    have still := r.optedOut_extend optedOut stays
    exact ⟨still, (r.extend later).blank_of_optedOut still,
      fun faithful => (r.extend later).erased_of_optedOut faithful still⟩

/-- A client over the store of a known visitor who has opted out, and of whom an id is set later. -/
theorem gated_by_privacy_over_known_visitor :
    let contents : Storage := ((∅ : Storage).insert StoreKey.tntId (.string "visitor")).insert
      StoreKey.sessionTimestamp (.integer 5)
    let r : Run Storage :=
      { store := .memory, contents
        configuration := some { clientCode := "acme", privacy := .optedOut } }
    let here : Surroundings :=
      { millis := 0, utcOffset := 0, freshSessionId := "first", freshNotificationId := fun _ => ""
        facts := {} }
    let later : List Moment :=
      [{ here, answer := .error (.network "down"), operation := .setThirdPartyId (some "own")
         direct := false }]
    r.client.HasOptedOut ∧ r.store.Faithful ∧ (r.extend later).client.Blank ∧
      Session.Erased r.store (r.extend later).stored := by
  intro contents r here later
  have optedOut : r.client.HasOptedOut := rfl
  have stays : ∀ m ∈ later, ∀ configuration, m.operation = .configure configuration →
      configuration.privacy = .optedOut := by
    intro m among configuration op
    obtain rfl := List.mem_singleton.mp among
    cases op
  obtain ⟨-, -, -, still⟩ := gated_by_privacy r
  obtain ⟨-, blank, erased⟩ := still optedOut later stays
  have faithful : r.store.Faithful := KeyValueStore.memory_faithful
  exact ⟨optedOut, faithful, blank, erased faithful⟩

end Run

end ContentDelivery
