/-
ContentDelivery.Proofs.Content.Occurrences — what a report tells of an occurrence.

Content that is held was displayed or clicked: an occurrence, of which
there is a report if the content has what it takes. The two kinds of
reports are made apart, from other fields and by other rules. Here they
are told in common: a report tells what occurred (`Occurrence.Tells`) by
the state, if there is to be one, and by the tokens that the listed items
give (`GivesToken`), in their order (`Picks`). `report?_eq_some` says that
nothing else is ever reported, and nothing else passed over.

Of a click only tokens count that say something. An option gives its
token as it is, so that a report of a display can carry an empty one
(`empty_token_iff`).
-/
import ContentDelivery.Proofs.Content.Reports
import Mathlib.Data.List.Forall2

namespace ContentDelivery

/-! ## Tokens -/

/-- The tokens that items give, in their order; an item that gives none is passed over. -/
inductive Picks (gives : α → β → Prop) : List α → List β → Prop
  | nil : Picks gives [] []
  | take {item : α} {token : β} {items : List α} {tokens : List β} (given : gives item token)
      (rest : Picks gives items tokens) : Picks gives (item :: items) (token :: tokens)
  | pass {item : α} {items : List α} {tokens : List β} (nothing : ∀ token, ¬gives item token)
      (rest : Picks gives items tokens) : Picks gives (item :: items) tokens

theorem picks_iff {gives : α → β → Prop} {found? : α → Option β}
    (found_iff : ∀ item token, found? item = some token ↔ gives item token) {items : List α}
    {tokens : List β} : Picks gives items tokens ↔ items.filterMap found? = tokens := by
  constructor
  · intro picks
    induction picks with
    | nil => rfl
    | take given rest ih => rw [List.filterMap_cons_some ((found_iff _ _).mpr given), ih]
    | @pass item _ _ nothing rest ih =>
      have nowhere : found? item = none := by
        simpa only [← found_iff, Option.eq_none_iff_forall_ne_some] using nothing
      rw [List.filterMap_cons_none nowhere, ih]
  · rintro rfl
    induction items with
    | nil => exact .nil
    | cons item items ih =>
      cases found : found? item with
      | none =>
        have nothing : ∀ token, ¬gives item token := by simp [← found_iff, found]
        simpa only [List.filterMap_cons_none found] using .pass nothing ih
      | some token =>
        have given := (found_iff item token).mp found
        simpa only [List.filterMap_cons_some found] using .take given ih

namespace NotificationKind

/-- Where content lists the items that give the tokens. -/
def listing : NotificationKind → String
  | display => "options"
  | click => "metrics"

/-- The tokens of items: of an option as it is, of a metric if it counts clicks and the token says
something. -/
inductive GivesToken : NotificationKind → Json → String → Prop
  | option {fields : Json.Fields} {token : String}
      (held : fields.get? "eventToken" = some (.string token)) :
      GivesToken display (.object fields) token
  | metric {fields : Json.Fields} {token : String}
      (counts_clicks : fields.get? "type" = some (.string "click"))
      (held : fields.get? "eventToken" = some (.string token)) (says_something : token ≠ "") :
      GivesToken click (.object fields) token

def token? (item : Json) : NotificationKind → Option String
  | display => item.stringField? "eventToken"
  | click =>
    if MboxContent.isClickMetric item then nonempty? (item.stringField? "eventToken") else none

theorem token?_eq_some {kind : NotificationKind} {item : Json} {token : String} :
    kind.token? item = some token ↔ kind.GivesToken item token := by
  cases kind with
  | display =>
    rw [token?, Json.stringField?_eq_some]
    constructor
    · rintro ⟨fields, rfl, held⟩
      exact .option held
    · rintro ⟨held⟩
      exact ⟨_, rfl, held⟩
  | click =>
    rw [token?, Option.ite_none_right_eq_some, nonempty?_eq_some, MboxContent.isClickMetric,
      beq_iff_eq, Json.stringField?_eq_some, Json.stringField?_eq_some]
    constructor
    · rintro ⟨⟨fields, rfl, counts_clicks⟩, ⟨_, ⟨⟩, held⟩, says_something⟩
      exact .metric counts_clicks held says_something
    · rintro (_ | ⟨counts_clicks, held, says_something⟩)
      exact ⟨⟨_, rfl, counts_clicks⟩, ⟨_, rfl, held⟩, says_something⟩

end NotificationKind

namespace MboxContent

/-- The tokens for a report of a kind. -/
def tokens (content : MboxContent) : NotificationKind → List String
  | .display => content.displayTokens
  | .click => content.clickTokens

theorem tokens_eq (content : MboxContent) (kind : NotificationKind) :
    content.tokens kind =
      (Json.itemsOf kind.listing (.object content)).filterMap fun item => kind.token? item := by
  cases kind with
  | display => rfl
  | click =>
    rw [tokens, clickTokens, List.filterMap_filter, List.filter_filterMap]
    refine List.filterMap_congr fun item _ => ?_
    unfold NotificationKind.token? nonempty?
    split <;> rfl

theorem tokens_ne_nil_iff {content : MboxContent} {kind : NotificationKind} :
    content.tokens kind ≠ [] ↔ ∃ items item token,
      content.get? kind.listing = some (.array items) ∧ item ∈ items ∧
        kind.GivesToken item token := by
  rw [tokens_eq, ne_eq, List.eq_nil_iff_forall_not_mem]
  simp only [not_forall, not_not, List.mem_filterMap, Json.mem_itemsOf,
    NotificationKind.token?_eq_some]
  grind

end MboxContent

/-! ## Occurrences -/

/-- Content was displayed or clicked, at some time and with some parameters; a report of it has the
given id. -/
structure Occurrence where
  kind : NotificationKind
  id : String
  timestamp : Int64
  parameters : Parameters
  name : String
  content : MboxContent

namespace Occurrence

variable {o : Occurrence} {report : Notification}

def report? (o : Occurrence) : Option Notification :=
  match o.kind with
  | .display => Notification.display? o.id o.timestamp o.parameters o.name o.content
  | .click => Notification.click? o.id o.timestamp o.parameters o.name o.content

/-- What a report tells of the state: of a display that of the content, if it says something, and of
a click none. -/
inductive TellsState (content : MboxContent) : NotificationKind → Option String → Prop
  | display {state : String} (held : content.get? "state" = some (.string state))
      (says_something : state ≠ "") : TellsState content .display (some state)
  | click : TellsState content .click none

/-- A report tells what occurred. -/
structure Tells (o : Occurrence) (report : Notification) : Prop where
  kind : report.kind = o.kind
  id : report.id = o.id
  timestamp : report.timestamp = o.timestamp
  parameters : report.parameters = o.parameters
  mboxName : report.mboxName = o.name
  mboxState : TellsState o.content o.kind report.mboxState
  tokens : ∃ items, o.content.get? o.kind.listing = some (.array items) ∧
    Picks o.kind.GivesToken items report.tokens
  nonempty : report.tokens ≠ []

/-- The content has what a report takes. -/
structure CanBeReported (o : Occurrence) : Prop where
  state : ∃ state, TellsState o.content o.kind state
  token : ∃ items item token, o.content.get? o.kind.listing = some (.array items) ∧
    item ∈ items ∧ o.kind.GivesToken item token

theorem exists_picked_iff {content : MboxContent} {kind : NotificationKind} {tokens : List String}
    (nonempty : tokens ≠ []) :
    (∃ items, content.get? kind.listing = some (.array items) ∧
      Picks kind.GivesToken items tokens) ↔ tokens = content.tokens kind := by
  have picked_iff : ∀ {items}, content.get? kind.listing = some (.array items) →
      (Picks kind.GivesToken items tokens ↔ content.tokens kind = tokens) := by
    intro items listed
    rw [MboxContent.tokens_eq, Json.itemsOf_of_listed listed]
    exact picks_iff fun _ _ => NotificationKind.token?_eq_some
  constructor
  · rintro ⟨items, listed, picked⟩
    exact ((picked_iff listed).mp picked).symm
  · rintro rfl
    obtain ⟨items, _, _, listed, -⟩ := MboxContent.tokens_ne_nil_iff.mp nonempty
    exact ⟨items, listed, (picked_iff listed).mpr rfl⟩

/-- The report of an occurrence, with a state. -/
def reportWith (o : Occurrence) (state : Option String) : Notification where
  id := o.id
  timestamp := o.timestamp
  kind := o.kind
  mboxName := o.name
  mboxState := state
  tokens := o.content.tokens o.kind
  parameters := o.parameters

theorem report?_eq_some_reportWith : o.report? = some report ↔
    ∃ state, TellsState o.content o.kind state ∧ o.content.tokens o.kind ≠ [] ∧
      report = o.reportWith state := by
  obtain ⟨kind, id, timestamp, parameters, name, content⟩ := o
  cases kind with
  | display =>
    refine Notification.display?_eq_some.trans ⟨?_, ?_⟩
    · rintro ⟨state, said, displayed, made⟩
      obtain ⟨held, says_something⟩ := MboxContent.state?_eq_some.mp said
      exact ⟨some state, .display held says_something, displayed, made⟩
    · rintro ⟨_, ⟨held, says_something⟩, displayed, made⟩
      exact ⟨_, MboxContent.state?_eq_some.mpr ⟨held, says_something⟩, displayed, made⟩
  | click =>
    refine Notification.click?_eq_some.trans ⟨?_, ?_⟩
    · rintro ⟨clicked, made⟩
      exact ⟨none, .click, clicked, made⟩
    · rintro ⟨_, ⟨⟩, clicked, made⟩
      exact ⟨clicked, made⟩

theorem tells_iff : o.Tells report ↔
    ∃ state, TellsState o.content o.kind state ∧ o.content.tokens o.kind ≠ [] ∧
      report = o.reportWith state := by
  constructor
  · rintro ⟨kind, id, timestamp, parameters, mboxName, mboxState, picked, nonempty⟩
    have tokens := (exists_picked_iff nonempty).mp picked
    refine ⟨report.mboxState, mboxState, tokens ▸ nonempty, ?_⟩
    cases report
    simp_all [reportWith]
  · rintro ⟨state, mboxState, nonempty, rfl⟩
    exact ⟨rfl, rfl, rfl, rfl, rfl, mboxState, (exists_picked_iff nonempty).mpr rfl, nonempty⟩

/-- What is reported is told, and what can be told is reported. -/
theorem report?_eq_some : o.report? = some report ↔ o.Tells report :=
  report?_eq_some_reportWith.trans tells_iff.symm

theorem exists_tells_iff : (∃ report, o.Tells report) ↔ o.CanBeReported := by
  constructor
  · rintro ⟨report, tells⟩
    obtain ⟨state, told, nonempty, -⟩ := tells_iff.mp tells
    exact ⟨⟨state, told⟩, MboxContent.tokens_ne_nil_iff.mp nonempty⟩
  · rintro ⟨⟨state, told⟩, token⟩
    exact ⟨_, tells_iff.mpr ⟨state, told, MboxContent.tokens_ne_nil_iff.mpr token, rfl⟩⟩

theorem report?_eq_none : o.report? = none ↔ ¬o.CanBeReported := by
  simp only [← exists_tells_iff, ← report?_eq_some, Option.eq_none_iff_forall_ne_some, not_exists,
    ne_eq]

instance : Decidable o.CanBeReported :=
  decidable_of_iff (o.report?.isSome = true) (by
    rw [Option.isSome_iff_ne_none, ne_eq, report?_eq_none, not_not])

/-! ## Empty tokens -/

/-- An option of displayed content has an empty token. -/
def GivesEmptyToken (o : Occurrence) : Prop :=
  o.kind = .display ∧ ∃ (options : List Json) (option : Json.Fields),
    o.content.get? "options" = some (.array options) ∧ .object option ∈ options ∧
      option.get? "eventToken" = some (.string "")

/-- No metric gives an empty token. -/
theorem Tells.empty_token_iff (tells : o.Tells report) :
    "" ∈ report.tokens ↔ o.GivesEmptyToken := by
  obtain ⟨_, -, -, rfl⟩ := tells_iff.mp tells
  have in_tokens : "" ∈ o.content.tokens o.kind ↔ ∃ item,
      (∃ items, o.content.get? o.kind.listing = some (.array items) ∧ item ∈ items) ∧
        o.kind.GivesToken item "" := by
    simp only [MboxContent.tokens_eq, List.mem_filterMap, Json.mem_itemsOf,
      NotificationKind.token?_eq_some]
  refine in_tokens.trans ?_
  obtain ⟨kind, id, timestamp, parameters, name, content⟩ := o
  constructor
  · rintro ⟨_, ⟨options, listed, among⟩, held | ⟨-, -, says_something⟩⟩
    · exact ⟨rfl, options, _, listed, among, held⟩
    · exact absurd rfl says_something
  · rintro ⟨⟨⟩, options, option, listed, among, held⟩
    exact ⟨_, ⟨options, listed, among⟩, .option held⟩

theorem exists_empty_token_iff {occurrences : List Occurrence} {made : List Notification}
    (told : List.Forall₂ Tells occurrences made) :
    (∃ report ∈ made, "" ∈ report.tokens) ↔ ∃ o ∈ occurrences, o.GivesEmptyToken := by
  induction told with
  | nil => simp
  | cons tells _ ih => simp only [List.exists_mem_cons_iff, tells.empty_token_iff, ih]

/-! ## Recording -/

/-- A report is added to those that are pending, and returned. -/
def record (pending : List Notification) (o : Occurrence) :
    Option Notification × List Notification :=
  match o.report? with
  | none => (none, pending)
  | some report => (some report, pending ++ [report])

/-- One occurrence after another. -/
def recordAll (pending : List Notification) (occurrences : List Occurrence) : List Notification :=
  occurrences.foldl (fun pending o => (o.record pending).2) pending

theorem snd_record (pending : List Notification) (o : Occurrence) :
    (o.record pending).2 = pending ++ o.report?.toList := by
  unfold record
  cases o.report? <;> simp

theorem record_of_tells (pending : List Notification) (tells : o.Tells report) :
    o.record pending = (some report, pending ++ [report]) := by
  rw [record, report?_eq_some.mpr tells]

theorem record_of_not_canBeReported (pending : List Notification) (cannot : ¬o.CanBeReported) :
    o.record pending = (none, pending) := by
  rw [record, report?_eq_none.mpr cannot]

theorem recordAll_cons (pending : List Notification) (o : Occurrence)
    (occurrences : List Occurrence) :
    recordAll pending (o :: occurrences) = recordAll (o.record pending).2 occurrences := rfl

theorem recordAll_append (pending : List Notification) (first second : List Occurrence) :
    recordAll pending (first ++ second) = recordAll (recordAll pending first) second :=
  List.foldl_append

/-- There is one report for each occurrence that can be reported, in their order, behind those that
are pending. -/
theorem exists_recordAll_eq_append (pending : List Notification) (occurrences : List Occurrence) :
    ∃ made, recordAll pending occurrences = pending ++ made ∧
      List.Forall₂ Tells (occurrences.filter (·.CanBeReported)) made := by
  induction occurrences generalizing pending with
  | nil => exact ⟨[], (List.append_nil pending).symm, .nil⟩
  | cons o occurrences ih =>
    rw [recordAll_cons]
    by_cases can : o.CanBeReported
    · obtain ⟨report, tells⟩ := exists_tells_iff.mpr can
      obtain ⟨made, recorded, told⟩ := ih (pending ++ [report])
      rw [record_of_tells pending tells, recorded, List.filter_cons_of_pos (by simpa using can)]
      exact ⟨report :: made, (List.append_cons ..).symm, .cons tells told⟩
    · obtain ⟨made, recorded, told⟩ := ih pending
      rw [record_of_not_canBeReported pending can, recorded,
        List.filter_cons_of_neg (by simpa using can)]
      exact ⟨made, rfl, told⟩

end Occurrence

end ContentDelivery
