/-
ContentDelivery.Proofs.Client.NothingToSend — when a call is refused as empty.

A call is refused as empty if it asks for no mboxes and no reports are
pending once its own were added, and then there is indeed nothing to
send. One call is refused in other cases too: a click on content that has
no click tokens (`IsIdleClick`), whatever is pending. All other calls take
pending reports along, if they are not kept from it by something else
(`empty_call_iff`).

Reports can be pending when a call begins only if an earlier call had no
endpoint; `empty_call_with_pending` makes one so and then clicks idly.
-/
import ContentDelivery.Proofs.Client.Failures
import ContentDelivery.Proofs.Content.Reports

namespace ContentDelivery.Client

variable {here : Surroundings} {m : Moment} {call : Call} {c : Client}
  {configuration : Configuration}

/-- A click on content that is held and has no click tokens. -/
def IsIdleClick (call : Call) (c : Client) : Prop :=
  ∃ name parameters content, call = .clicked name parameters ∧
    c.cache.find? name = some content ∧ content.clickTokens = []

/-! ## Refusals -/

theorem attempts_of_allowed
    (allowed : Configuration.forRequests c.configuration = .ok configuration)
    (here : Surroundings) (call : Call) : c.attempts here call = c.hasToSend here call := by
  simp [attempts, allowed, Except.isOk, Except.toBool]

/-- A click makes no report if no content is held, or if the click is idle. -/
theorem reports_clicked_eq_nil_iff {name : String} {parameters : Option Parameters}
    (allowed : Configuration.forRequests c.configuration = .ok configuration) :
    c.reports here (.clicked name parameters) = [] ↔
      c.cache.find? name = none ∨ c.IsIdleClick (.clicked name parameters) := by
  simp only [reports, allowed, IsIdleClick]
  cases found : c.cache.find? name with
  | none => simp
  | some content =>
    simp only [Option.bind_some, Option.toList_eq_nil_iff, Notification.click?_eq_none_iff]
    constructor
    · intro no_tokens
      exact .inr ⟨name, parameters, content, rfl, found, no_tokens⟩
    · rintro (missing | ⟨_, _, _, ⟨⟩, held, no_tokens⟩)
      · cases missing
      · cases found.symm.trans held
        exact no_tokens

theorem not_isIdleClick_of_kind (not_click : call.kind ≠ .clicked) : ¬c.IsIdleClick call := by
  rintro ⟨_, _, _, rfl, -⟩
  exact not_click rfl

/-- Reports of displays and fetches are no attempt exactly if there is nothing to send. -/
theorem not_attempts_iff_of_kind
    (allowed : Configuration.forRequests c.configuration = .ok configuration)
    (not_click : call.kind ≠ .clicked) :
    c.attempts here call = false ↔
      call.selection.isEmpty = true ∧ c.pending ++ c.reports here call = [] := by
  rw [attempts_of_allowed allowed]
  cases call with
  | prefetch mboxes parameters | execute mboxes parameters =>
    simp [hasToSend, reports, allowed, Call.selection, MboxSelection.isEmpty]
  | displayed names parameters => simp [hasToSend, Call.selection, MboxSelection.isEmpty]
  | clicked name parameters => exact absurd rfl not_click

theorem refusal_of_kind
    (allowed : Configuration.forRequests c.configuration = .ok configuration)
    (not_click : call.kind ≠ .clicked) : c.refusal call = .emptyRequest := by
  unfold refusal
  rw [allowed]
  cases call with
  | prefetch _ _ | execute _ _ | displayed _ _ => rfl
  | clicked name parameters => exact absurd rfl not_click

/-- Clicks are refused as empty exactly if they are idle. -/
theorem refused_empty_clicked_iff {name : String} {parameters : Option Parameters}
    (allowed : Configuration.forRequests c.configuration = .ok configuration) :
    c.attempts here (.clicked name parameters) = false ∧
        c.refusal (.clicked name parameters) = .emptyRequest ↔
      c.IsIdleClick (.clicked name parameters) := by
  have no_report : c.attempts here (.clicked name parameters) = false ↔
      c.reports here (.clicked name parameters) = [] := by
    simp [attempts_of_allowed allowed, hasToSend]
  rw [no_report, reports_clicked_eq_nil_iff allowed]
  constructor
  · rintro ⟨missing | idle, refused⟩
    · simp [refusal, allowed, missing] at refused
    · exact idle
  · intro idle
    refine ⟨.inr idle, ?_⟩
    obtain ⟨_, _, content, ⟨⟩, held, -⟩ := idle
    simp [refusal, allowed, held]

theorem refused_empty_iff
    (allowed : Configuration.forRequests c.configuration = .ok configuration) :
    c.attempts here call = false ∧ c.refusal call = .emptyRequest ↔
      c.IsIdleClick call ∨
        call.kind ≠ .clicked ∧ call.selection.isEmpty = true ∧
          c.pending ++ c.reports here call = [] := by
  by_cases is_click : call.kind = .clicked
  · cases call with
    | prefetch _ _ | execute _ _ | displayed _ _ => cases is_click
    | clicked name parameters => simp [refused_empty_clicked_iff allowed, Call.kind]
  · simp [not_attempts_iff_of_kind allowed is_click, refusal_of_kind allowed is_click,
      not_isIdleClick_of_kind is_click, is_click]

theorem refusal_of_allowed
    (allowed : Configuration.forRequests c.configuration = .ok configuration) (call : Call) :
    c.refusal call = .emptyRequest ∨ ∃ name, c.refusal call = .mboxNotCached name := by
  unfold refusal
  rw [allowed]
  cases call with
  | prefetch _ _ | execute _ _ | displayed _ _ => exact .inl rfl
  | clicked name _ =>
    cases found : c.cache.find? name with
    | none => exact .inr ⟨name, by simp [found]⟩
    | some content => exact .inl (by simp [found])

/-- A call that is no attempt sends nothing and leaves the client as it was. -/
theorem untouched_of_not_attempts (op : m.operation = .call call)
    (not_attempted : c.attempts m.here call = false) :
    (c.act m).request = none ∧ (c.act m).client = c := by
  have refused := refused_of_not_attempts m.answer not_attempted
  exact ⟨(request_act_call op c).trans refused.request,
    (client_act_call op c).trans refused.client⟩

/-- No answer comes to an early failure: a call that fails so by itself was refused for that. -/
theorem own_early_failure_iff {failure : Failure} (op : m.operation = .call call)
    (early : failure.isEarly = true) :
    OwnFailure m failure (c.act m) ↔
      c.attempts m.here call = false ∧ c.refusal call = failure := by
  constructor
  · intro own
    rcases own_failure_cases op own with ⟨refused, why⟩ | ⟨_, -, rfl⟩ | answered
    · exact ⟨refused.not_attempted, why.symm⟩
    · cases early
    · cases early.symm.trans (not_isEarly_of_answered answered)
  · rintro ⟨not_attempted, why⟩
    have failed := result_of_not_attempts m.answer not_attempted
    rw [why] at failed
    have no_request := (untouched_of_not_attempts op not_attempted).1
    exact ⟨(result_act_eq_failed op).mpr failed, .inl no_request⟩

/-- A call that is not refused sends all reports, or has no endpoint. -/
theorem dispatched_of_attempts (op : m.operation = .call call)
    (attempted : c.attempts m.here call = true) :
    (OwnFailure m .invalidUrl (c.act m) ∧ (c.act m).request = none ∧
      (c.act m).client.pending = c.pending ++ c.reports m.here call) ∨
    ∃ request, (c.act m).request = some request ∧
      request.payload.notifications = c.pending ++ c.reports m.here call := by
  rcases perform_cases m.here m.answer call c with refused | ⟨_, stranded⟩ | ⟨_, request, sent⟩
  · cases attempted.symm.trans refused.not_attempted
  · have no_request := (request_act_call op c).trans stranded.request
    refine .inl ⟨own_failure_of_no_endpoint op attempted no_request, no_request, ?_⟩
    rw [client_act_call op, stranded.client]
  · exact .inr ⟨request, (request_act_call op c).trans sent.request,
      DeliveryRequest.notifications_of_assemble sent.payload⟩

/-! ## Calls -/

/-- **A call is refused as empty if there is nothing to send, or if it is an idle click.** Under a
configuration that allows requests, a call fails so by itself exactly if it asks for no mboxes and,
with its own reports added, none are pending, or if it is a click on content without click tokens.
Such a click leaves what is pending. Any other call that finds reports pending takes them along,
unless it is a click on content that is not held, or has no endpoint. -/
theorem empty_call_iff (op : m.operation = .call call)
    (in_effect : c.configuration = some configuration) (has_code : configuration.clientCode ≠ "")
    (opted_in : configuration.privacy = .optedIn) :
    let step := c.act m
    (OwnFailure m .emptyRequest step ↔
      c.IsIdleClick call ∨
        call.kind ≠ .clicked ∧ call.selection.isEmpty = true ∧
          c.pending ++ c.reports m.here call = []) ∧
    (c.IsIdleClick call → step.request = none ∧ step.client = c) ∧
    (c.pending ≠ [] → ¬c.IsIdleClick call →
      (∃ name, OwnFailure m (.mboxNotCached name) step) ∨
      OwnFailure m .invalidUrl step ∨
      ∃ request, step.request = some request ∧
        request.payload.notifications = c.pending ++ c.reports m.here call) := by
  intro step
  have allowed := Configuration.forRequests_eq_ok.mpr ⟨in_effect, has_code, opted_in⟩
  refine ⟨(own_early_failure_iff op rfl).trans (refused_empty_iff allowed), ?_, ?_⟩
  · intro idle
    have not_attempted : c.attempts m.here call = false :=
      ((refused_empty_iff allowed).mpr (.inl idle)).1
    exact untouched_of_not_attempts op not_attempted
  · intro pending not_idle
    cases attempted : c.attempts m.here call with
    | true =>
      rcases dispatched_of_attempts op attempted with ⟨no_endpoint, -⟩ | sent
      · exact .inr (.inl no_endpoint)
      · exact .inr (.inr sent)
    | false =>
      rcases refusal_of_allowed allowed call with empty | ⟨name, not_held⟩
      · have nothing := (refused_empty_iff allowed).mp ⟨attempted, empty⟩
        have none_pending := (nothing.resolve_left not_idle).2.2
        exact absurd (List.append_eq_nil_iff.mp none_pending).1 pending
      · exact .inl ⟨name, (own_early_failure_iff op rfl).mpr ⟨attempted, not_held⟩⟩

/-! ## A pending click -/

def acme : Configuration := { clientCode := "acme", privacy := .optedIn }

/-- An operation at five seconds past the epoch; a request of it is answered with some body. -/
def answeredWith (body : String) (operation : Operation) : Moment where
  here :=
    { millis := 5000, utcOffset := 0, freshSessionId := "session"
      freshNotificationId := fun _ => "report", facts := {} }
  answer := .ok { status := 200, body := body.toUTF8 }
  operation
  direct := true

/-- Two mboxes to display at once, of which `old` has a click token and `plain` has none. -/
def withTwoMboxes : Operation → Moment :=
  let metric := "\x7b\"type\":\"click\",\"eventToken\":\"token\"\x7d"
  let old := "\x7b\"name\":\"old\",\"metrics\":[" ++ metric ++ "]\x7d"
  let plain := "\x7b\"name\":\"plain\"\x7d"
  answeredWith ("\x7b\"execute\":\x7b\"mboxes\":[" ++ old ++ "," ++ plain ++ "]\x7d\x7d")

/-- A click is left pending, because there was no endpoint when it was to be sent. -/
def strandedClick : Run Storage where
  store := .memory
  contents := ∅
  configuration := some acme
  moments :=
    [ withTwoMboxes (.call (.execute [{ name := "old" }, { name := "plain" }] none)),
      withTwoMboxes (.configure { acme with targetServer := some "a b" }),
      withTwoMboxes (.call (.clicked "old" none)),
      withTwoMboxes (.configure acme) ]

theorem after_strandedClick :
    strandedClick.client.configuration = some acme ∧ strandedClick.client.pending ≠ [] := by
  decide +kernel

/-- A prefetch of nothing is not refused while the click is pending. -/
theorem empty_call_iff_for_prefetch :
    let c := strandedClick.client
    let m := withTwoMboxes (.call (.prefetch [] none))
    c.configuration = some acme ∧ acme.clientCode ≠ "" ∧ acme.privacy = .optedIn ∧
      ¬OwnFailure m .emptyRequest (c.act m) := by
  intro c m
  obtain ⟨in_effect, pending⟩ := after_strandedClick
  refine ⟨in_effect, by decide, rfl, fun own => ?_⟩
  have refused := (empty_call_iff (m := m) rfl in_effect (by decide) rfl).1.mp own
  rcases refused with ⟨_, _, _, ⟨⟩, -⟩ | ⟨-, -, none_pending⟩
  exact pending (List.append_eq_nil_iff.mp none_pending).1

/-- An idle click is refused as empty while another click is pending, which stays where it is. -/
theorem empty_call_with_pending :
    let c := strandedClick.client
    let m := withTwoMboxes (.call (.clicked "plain" none))
    Configuration.forRequests c.configuration = .ok acme ∧ c.pending ≠ [] ∧
      OwnFailure m .emptyRequest (c.act m) ∧ (c.act m).request = none ∧
      (c.act m).client.pending = c.pending := by
  intro c m
  obtain ⟨in_effect, pending⟩ := after_strandedClick
  have idle : c.attempts m.here (.clicked "plain" none) = false ∧
      c.refusal (.clicked "plain" none) = .emptyRequest := by decide +kernel
  obtain ⟨unasked, left⟩ := untouched_of_not_attempts (m := m) rfl idle.1
  refine ⟨Configuration.forRequests_eq_ok.mpr ⟨in_effect, by decide, rfl⟩, pending,
    (own_early_failure_iff rfl rfl).mpr idle, unasked, ?_⟩
  rw [left]

end ContentDelivery.Client
