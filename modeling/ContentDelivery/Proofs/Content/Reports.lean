/-
ContentDelivery.Proofs.Content.Reports — what content can be reported.

A display is reported with the state of the content and the tokens of its
options, a click with the tokens of its click metrics. Content need not
have any of them, and what has the wrong type counts as missing: the
lemmas here say of what is found in the content when there is a report,
and what it holds.
-/
import ContentDelivery.Content.Notification
import ContentDelivery.Proofs.Json.Fields

namespace ContentDelivery

namespace MboxContent

variable {content : MboxContent}

theorem state?_eq_some {state : String} :
    content.state? = some state ↔ content.get? "state" = some (.string state) ∧ state ≠ "" := by
  simp [state?, nonempty?_eq_some, Option.bind_eq_some_iff, Json.asString?_eq_some]

theorem displayTokens_of_options {options : List Json}
    (listed : content.get? "options" = some (.array options)) :
    content.displayTokens = options.filterMap (Json.stringField? "eventToken") := by
  rw [displayTokens, Json.itemsOf_of_listed listed]

/-- Content has tokens of displays as soon as one of its options has one, be it empty. -/
theorem displayTokens_ne_nil_iff :
    content.displayTokens ≠ [] ↔ ∃ options option token,
      content.get? "options" = some (.array options) ∧ option ∈ options ∧
        option.stringField? "eventToken" = some token := by
  rw [ne_eq, List.eq_nil_iff_forall_not_mem]
  simp only [not_forall, not_not, displayTokens, List.mem_filterMap, Json.mem_itemsOf]
  grind

/-- A display of the content can be reported: it has a state that says something, and one of its
options has a token. -/
structure CanBeDisplayed (content : MboxContent) : Prop where
  state : ∃ state, content.get? "state" = some (.string state) ∧ state ≠ ""
  token : ∃ options option token, content.get? "options" = some (.array options) ∧
    option ∈ options ∧ option.stringField? "eventToken" = some token

theorem canBeDisplayed_iff :
    content.CanBeDisplayed ↔ content.state?.isSome = true ∧ content.displayTokens ≠ [] := by
  rw [displayTokens_ne_nil_iff, Option.isSome_iff_exists]
  simp only [state?_eq_some]
  exact ⟨fun can => ⟨can.state, can.token⟩, fun can => ⟨can.1, can.2⟩⟩

instance : Decidable content.CanBeDisplayed := decidable_of_iff _ canBeDisplayed_iff.symm

end MboxContent

namespace Notification

variable {id name : String} {timestamp : Int64} {parameters : Parameters} {content : MboxContent}

theorem display?_eq_some {report : Notification} :
    display? id timestamp parameters name content = some report ↔
      ∃ state, content.state? = some state ∧ content.displayTokens ≠ [] ∧
        report =
          { id, timestamp, kind := .display, mboxName := name, mboxState := some state
            tokens := content.displayTokens, parameters } := by
  unfold display?
  cases content.state? with
  | none =>
    change none = some report ↔ _
    simp
  | some state =>
    cases content.displayTokens with
    | nil =>
      change none = some report ↔ _
      simp
    | cons token tokens =>
      change some _ = some report ↔ _
      simp [eq_comm]

theorem isSome_display? :
    (display? id timestamp parameters name content).isSome = true ↔ content.CanBeDisplayed := by
  rw [MboxContent.canBeDisplayed_iff, Option.isSome_iff_exists, Option.isSome_iff_exists]
  simp only [display?_eq_some]
  constructor
  · rintro ⟨_, state, said, displayed, -⟩
    exact ⟨⟨state, said⟩, displayed⟩
  · rintro ⟨⟨state, said⟩, displayed⟩
    exact ⟨_, state, said, displayed, rfl⟩

/-- A display is reported under its name, with the state and the tokens of what was displayed. -/
structure TellsDisplay (id : String) (timestamp : Int64) (parameters : Parameters) (name : String)
    (content : MboxContent) (report : Notification) : Prop where
  id : report.id = id
  timestamp : report.timestamp = timestamp
  parameters : report.parameters = parameters
  kind : report.kind = .display
  mboxName : report.mboxName = name
  mboxState : ∃ state, report.mboxState = some state ∧
    content.get? "state" = some (.string state) ∧ state ≠ ""
  tokens : ∃ options, content.get? "options" = some (.array options) ∧
    report.tokens = options.filterMap (Json.stringField? "eventToken")

theorem tellsDisplay_of_display? {report : Notification}
    (made : display? id timestamp parameters name content = some report) :
    TellsDisplay id timestamp parameters name content report := by
  obtain ⟨state, said, displayed, rfl⟩ := display?_eq_some.mp made
  obtain ⟨options, _, _, listed, -⟩ := MboxContent.displayTokens_ne_nil_iff.mp displayed
  exact {
    id := rfl, timestamp := rfl, parameters := rfl, kind := rfl, mboxName := rfl
    mboxState := ⟨state, rfl, MboxContent.state?_eq_some.mp said⟩
    tokens := ⟨options, listed, MboxContent.displayTokens_of_options listed⟩ }

theorem click?_eq_some {report : Notification} :
    click? id timestamp parameters name content = some report ↔
      content.clickTokens ≠ [] ∧
        report =
          { id, timestamp, kind := .click, mboxName := name, mboxState := none
            tokens := content.clickTokens, parameters } := by
  unfold click?
  cases content.clickTokens with
  | nil =>
    change none = some report ↔ _
    simp
  | cons token tokens =>
    change some _ = some report ↔ _
    simp [eq_comm]

/-- A click is reported exactly if the content has tokens for it. -/
theorem click?_eq_none_iff :
    click? id timestamp parameters name content = none ↔ content.clickTokens = [] := by
  rw [Option.eq_none_iff_forall_ne_some]
  simp [click?_eq_some]

end Notification

end ContentDelivery
