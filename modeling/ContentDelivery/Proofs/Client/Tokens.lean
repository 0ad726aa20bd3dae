/-
ContentDelivery.Proofs.Client.Tokens — what is reported has tokens.

`reported_with_tokens`: a report is made exactly of what occurred to
content that has what the report takes, and it carries the tokens that
the content gives for it. What any call adds to the pending reports is of
this kind: it was recorded of content that the client holds.

The tokens of clicks say something; those of displays need not, which is
the one thing a report can carry that is of no use
(`empty_token_reported`).
-/
import ContentDelivery.Proofs.Client.Displays
import ContentDelivery.Proofs.Content.Occurrences

namespace ContentDelivery.Client

open Occurrence (recordAll recordAll_append recordAll_cons snd_record)

/-- Reports are what was recorded of content that is held, whatever was pending before. -/
def AreRecordedOf (cache : Cache) (made : List Notification) : Prop :=
  ∃ occurrences : List Occurrence, (∀ o ∈ occurrences, cache.find? o.name = some o.content) ∧
    ∀ pending, recordAll pending occurrences = pending ++ made

theorem areRecordedOf_nil (cache : Cache) : AreRecordedOf cache [] :=
  ⟨[], nofun, fun pending => (List.append_nil pending).symm⟩

variable {here : Surroundings} {parameters : Parameters} {c : Client}

theorem find?_of_mem_displayable {names : List String} {cache : Cache}
    {entry : String × MboxContent} (shown : entry ∈ displayable names cache) :
    cache.find? entry.1 = some entry.2 := by
  obtain ⟨name, -, found⟩ := List.mem_filterMap.mp shown
  split at found
  · cases found
  · obtain ⟨content, held, rfl⟩ := Option.map_eq_some_iff.mp found
    simp [Cache.find?, held]

/-- Reports of displays are recorded one by one. -/
theorem areRecordedOf_displays {cache : Cache} (here : Surroundings) (parameters : Parameters)
    {shown : List (String × MboxContent)}
    (held : ∀ entry ∈ shown, cache.find? entry.1 = some entry.2) :
    AreRecordedOf cache (displays here parameters shown) := by
  induction shown using List.reverseRecOn with
  | nil => exact areRecordedOf_nil cache
  | append_singleton shown entry ih =>
    obtain ⟨name, content⟩ := entry
    obtain ⟨occurrences, of_held, recorded⟩ := ih fun entry among =>
      held entry (List.mem_append_left _ among)
    let last : Occurrence :=
      { kind := .display, id := here.freshNotificationId (displays here parameters shown).length
        timestamp := here.millis, parameters, name, content }
    refine ⟨occurrences ++ [last], ?_, fun pending => ?_⟩
    · intro o among
      rcases List.mem_append.mp among with before | is_last
      · exact of_held o before
      · obtain rfl := List.mem_singleton.mp is_last
        exact held (name, content) (List.mem_append_right _ (List.mem_singleton_self _))
    · rw [displays_concat, recordAll_append, recorded, recordAll_cons, snd_record,
        List.append_assoc]
      rfl

/-- A click on content, as a call tells it. -/
def clickOn (here : Surroundings) (ofCall : Option Parameters) (name : String)
    (content : MboxContent) : Occurrence where
  kind := .click
  id := here.freshNotificationId 0
  timestamp := here.millis
  parameters := (Parameters.ofContext here.facts.contextData).overlay (ofCall.getD ∅)
  name := name
  content := content

/-- A report of the whole call has no layer of an mbox. -/
theorem notificationParameters_eq (facts : HostFacts) (ofCall : Option Parameters) :
    facts.notificationParameters ofCall =
      (Parameters.ofContext facts.contextData).overlay (ofCall.getD ∅) := by
  simp [HostFacts.notificationParameters, Parameters.merge, Parameters.overlay_empty]

theorem reports_clicked_of_held {configuration : Configuration} {name : String}
    {ofCall : Option Parameters} {content : MboxContent}
    (allowed : Configuration.forRequests c.configuration = .ok configuration)
    (held : c.cache.find? name = some content) :
    c.reports here (.clicked name ofCall) =
      (clickOn here ofCall name content).report?.toList := by
  simp only [reports, allowed, held, notificationParameters_eq]
  rfl

theorem areRecordedOf_reports (here : Surroundings) (call : Call) (c : Client) :
    AreRecordedOf c.cache (c.reports here call) := by
  cases allowed : Configuration.forRequests c.configuration with
  | error _ => simpa only [reports, allowed] using areRecordedOf_nil c.cache
  | ok configuration =>
    cases call with
    | prefetch _ _ | execute _ _ => simpa only [reports, allowed] using areRecordedOf_nil c.cache
    | displayed names ofCall =>
      simpa only [reports, allowed] using
        areRecordedOf_displays here _ fun _ => find?_of_mem_displayable
    | clicked name ofCall =>
      cases held : c.cache.find? name with
      | none =>
        simpa only [reports, allowed, held, Option.bind_none, Option.toList_none] using
          areRecordedOf_nil c.cache
      | some content =>
        rw [reports_clicked_of_held allowed held]
        exact ⟨[_], List.forall_mem_singleton.mpr held, fun pending => snd_record pending _⟩

/-- **Every report carries the tokens of what occurred.** Whatever was displayed and clicked, one
after another: those occurrences are reported whose content has a state, for a display, and gives a
token, in their order, and each report tells what occurred. Any other occurrence is answered with
nothing and leaves the pending reports as they were. No token of a click is empty; one of a display
is exactly if an option has an empty token. Calls add no other reports than these. -/
theorem reported_with_tokens (pending : List Notification) (occurrences : List Occurrence) :
    (∃ made, recordAll pending occurrences = pending ++ made ∧
      List.Forall₂ Occurrence.Tells (occurrences.filter (·.CanBeReported)) made ∧
      ((∃ report ∈ made, "" ∈ report.tokens) ↔
        ∃ o ∈ occurrences, o.CanBeReported ∧ o.GivesEmptyToken)) ∧
    (∀ o : Occurrence,
      (o.CanBeReported →
        ∃ report, o.Tells report ∧ o.record pending = (some report, pending ++ [report])) ∧
      (¬o.CanBeReported → o.record pending = (none, pending))) ∧
    ∀ (here : Surroundings) (call : Call) (c : Client),
      AreRecordedOf c.cache (c.reports here call) := by
  refine ⟨?_, fun o => ⟨fun can => ?_, ?_⟩, areRecordedOf_reports⟩
  · obtain ⟨made, recorded, told⟩ := Occurrence.exists_recordAll_eq_append pending occurrences
    refine ⟨made, recorded, told, (Occurrence.exists_empty_token_iff told).trans ?_⟩
    simp only [List.mem_filter, decide_eq_true_eq, and_assoc]
  · obtain ⟨report, tells⟩ := Occurrence.exists_tells_iff.mpr can
    exact ⟨report, tells, Occurrence.record_of_tells pending tells⟩
  · exact Occurrence.record_of_not_canBeReported pending

/-- Content whose one option has an empty token is reported as displayed, with that token. -/
theorem empty_token_reported :
    let content : MboxContent :=
      [("options", .array [.object [("eventToken", .string "")]]), ("state", .string "seen")]
    let o : Occurrence :=
      { kind := .display, id := "report", timestamp := 0, parameters := ∅, name := "hero", content }
    ∃ report, o.record [] = (some report, [report]) ∧ report.tokens = [""] := by
  intro content o
  have tells : o.Tells (o.reportWith (some "seen")) :=
    Occurrence.tells_iff.mpr ⟨_, .display rfl (by decide), by decide, rfl⟩
  exact ⟨_, Occurrence.record_of_tells [] tells, by decide⟩

end ContentDelivery.Client
