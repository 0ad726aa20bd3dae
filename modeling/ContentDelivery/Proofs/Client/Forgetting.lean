/-
ContentDelivery.Proofs.Client.Forgetting — a forgotten visitor leaves no trace.

`forgetting_leaves_no_trace` compares two clients that may have nothing
in common but the configuration in effect. Once both forgot their
visitors nobody can tell them apart: whatever is asked of both from then
on, they answer, tell, send and write the same, up to the ids that are
generated on the way.

The reason is that what is left of a client is a function of its
configuration (`Run.client_of_forgets`). The second of the last activity
is set back to a fixed one, and the timeout, which no reset touches, is
that of the configuration in effect in every run (`Run.timeout_eq`).
-/
import ContentDelivery.Proofs.Client.Publication
import ContentDelivery.Proofs.Client.Renaming

namespace ContentDelivery

namespace Client

/-- All that is left of a client whose visitor was forgotten. -/
def forgotten (configuration : Option Configuration) : Client where
  session :=
    { tntId := none
      thirdPartyId := none
      edgeHost := none
      id := ""
      startedAt := some 0
      timeout := (configuration.bind Configuration.sessionTimeout).getD Session.defaultTimeout }
  configuration := configuration

theorem forgotten_alike (ρ : Renaming) (configuration : Option Configuration) :
    (forgotten configuration).Alike ρ (forgotten configuration) where
  session := ⟨.inl ⟨rfl, rfl⟩, rfl⟩
  cache := rfl
  pending := .nil
  configuration := rfl

theorem client_act_of_forgets {m : Moment} {c : Client} (forgets : m.operation.forgets = true)
    (timeout : c.session.timeout = c.timeoutInEffect) :
    (c.act m).client = forgotten (c.act m).client.configuration := by
  rcases Operation.forgets_iff.mp forgets with op | ⟨configuration, op, optedOut⟩
  · have reset_eq : (c.handle m.here m.answer .reset).client =
        { c with session := c.session.forget.session, cache := {}, pending := [] } := rfl
    rw [client_act_of op, reset_eq, Session.session_forget, timeout]
    rfl
  · have configured : (c.handle m.here m.answer (.configure configuration)).client =
        (c.configure configuration).client := rfl
    rw [client_act_of op, configured, configure_of_optedOut optedOut]
    simp [forgotten]

/-- What is told when a visitor is forgotten does not depend on the visitor. -/
theorem told_of_forgets {m n : Moment} (same : m.SameButIds n)
    (forgets : m.operation.forgets = true) (c d : Client) :
    (c.act m).result = (d.act n).result ∧ (c.act m).request = none ∧ (d.act n).request = none ∧
      (c.act m).events = (d.act n).events := by
  have not_call : ∀ call, m.operation ≠ .call call := by
    intro call op
    simp [op, Operation.forgets] at forgets
  have no_request : (d.act n).request = none := by
    rw [same.operation] at not_call
    exact request_act_of_not_call not_call d
  refine ⟨?_, request_act_of_not_call not_call c, no_request, ?_⟩
  · unfold act
    rw [← same.direct, ← same.operation]
    rcases Operation.forgets_iff.mp forgets with op | ⟨configuration, op, -⟩ <;>
      cases m.direct <;> simp only [op] <;> rfl
  · rw [events_act, events_act, ← same.operation]
    rcases Operation.forgets_iff.mp forgets with op | ⟨configuration, op, optedOut⟩
    · simp only [op, events_reset]
    · simp only [op, (events_configure_of_optedOut optedOut _).1]

end Client

namespace Run

theorem client_of_forgets (r : Run σ) {m : Moment} (forgets : m.operation.forgets = true) :
    (r.next m).client = Client.forgotten (r.next m).client.configuration := by
  rw [client_next]
  exact Client.client_act_of_forgets forgets r.timeout_eq

/-- **A forgotten visitor leaves no trace.** Take two runs, over whatever stores, that end with the
same configuration in effect, and let both clients be reset, or both be given the same configuration
of a visitor who opted out. From then on, the same operations with the same clock, host and answers
come to the same results, events and requests in both, and even to the same writes, up to the ids
that are generated, of which those stand for each other that are made at the same place. If each of
these is made once only, the renaming is one to one. -/
theorem forgetting_leaves_no_trace {r : Run σ} {s : Run τ} {m n : Moment} {ms ns : List Moment}
    (configuration : r.client.configuration = s.client.configuration)
    (forgets : m.operation.forgets = true) (first : m.SameButIds n)
    (common : List.Forall₂ Moment.SameButIds ms ns)
    (nonempty : ∀ m ∈ ms ++ ns, m.here.freshSessionId ≠ "") :
    ((r.client.act m).result = (s.client.act n).result ∧ (r.client.act m).request = none ∧
      (s.client.act n).request = none ∧ (r.client.act m).events = (s.client.act n).events) ∧
    List.Forall₂ (fun k l => Step.Alike (.ofPlaces ms ns) k.step l.step)
      ((r.next m).client.laps ms) ((s.next n).client.laps ns) ∧
    (DistinctIds ms → DistinctIds ns → (Renaming.ofPlaces ms ns).OneToOne) := by
  refine ⟨Client.told_of_forgets first forgets _ _, ?_, Renaming.oneToOne_ofPlaces⟩
  have in_effect : (r.next m).client.configuration = (s.next n).client.configuration := by
    rw [client_next, client_next, Client.configuration_act, Client.configuration_act,
      ← first.operation, configuration]
  have alike : Client.Alike (.ofPlaces ms ns) (r.next m).client (s.next n).client := by
    rw [r.client_of_forgets forgets, s.client_of_forgets (first.operation ▸ forgets), in_effect]
    exact Client.forgotten_alike _ _
  exact alike.laps (Moment.alike_ofPlaces common nonempty)

/-- After a reset, a client of a known visitor in the middle of a session asks like a new client. -/
theorem forgetting_leaves_no_trace_of_known_visitor :
    let acme : Configuration := { clientCode := "acme", privacy := .optedIn }
    let moment (generated : String) (operation : Operation) : Moment :=
      { here :=
          { millis := 5000, utcOffset := 0, freshSessionId := generated
            freshNotificationId := fun _ => generated, facts := {} }
        answer := .ok { status := 200, body := "\x7b\x7d".toUTF8 }, operation, direct := false }
    let execute : Operation := .call (.execute [{ name := "box" }] none)
    let r : Run Storage := { store := .memory, contents := ∅, configuration := some acme }
    let s : Run Storage :=
      { store := .memory
        contents := ((∅ : Storage).insert StoreKey.tntId (.string "visitor")).insert
          StoreKey.sessionId (.string "current")
        configuration := some acme
        moments := [moment "unused" (.setThirdPartyId (some "own")), moment "unused" execute] }
    let reset := moment "unused" .reset
    r.client.identifiers ≠ s.client.identifiers ∧ r.client.session.id ≠ s.client.session.id ∧
    ∃ a b,
      ((r.next reset).client.act (moment "one" execute)).request = some a ∧
      ((s.next reset).client.act (moment "other" execute)).request = some b ∧
      HttpRequest.Alike (.ofPlaces [moment "one" execute] [moment "other" execute]) a b := by
  intro acme moment execute r s reset
  have configuration : r.client.configuration = s.client.configuration := by decide +kernel
  have same : ∀ first second operation,
      (moment first operation).SameButIds (moment second operation) :=
    fun _ _ _ => ⟨rfl, rfl, rfl, rfl, rfl, rfl⟩
  have nonempty : ∀ m ∈ [moment "one" execute] ++ [moment "other" execute],
      m.here.freshSessionId ≠ "" := by
    simp [moment]
  have first : reset.SameButIds reset := same "unused" "unused" .reset
  have no_trace := (forgetting_leaves_no_trace configuration rfl first
    (.cons (same "one" "other" execute) .nil) nonempty).2.1
  obtain ⟨alike, -⟩ := List.forall₂_cons.mp no_trace
  have asked : ((r.next reset).client.act (moment "one" execute)).request.isSome = true := by
    decide +kernel
  obtain ⟨a, asked⟩ := Option.isSome_iff_exists.mp asked
  have requests := alike.request
  rw [Lap.step, Lap.step, asked] at requests
  refine ⟨by decide +kernel, by decide +kernel, a, ?_⟩
  cases asked_other : ((s.next reset).client.act (moment "other" execute)).request with
  | none =>
    rw [asked_other] at requests
    cases requests
  | some b =>
    rw [asked_other] at requests
    cases requests with
    | some requests => exact ⟨b, asked, rfl, requests⟩

end Run

end ContentDelivery
