/-
ContentDelivery.Proofs.Client.Clicks — clicks are told as of the full content.

Content that is displayed at once is held trimmed. For clicks this loses
nothing, and for displays it leaves nothing (`standsForClicks_trimmed`).
So a click is reported as if the mbox were held that the service returned
last (`Run.LastReturned`), in whatever half of the cache it is
(`clicks_told_in_full`), and only a click on a name that neither half
holds is refused as not held.
-/
import ContentDelivery.Proofs.Client.Tokens

namespace ContentDelivery

/-! ## Trimmed content -/

namespace MboxContent

theorem clickTokens_trimmed (content : MboxContent) :
    content.trimmed.clickTokens = content.clickTokens := by
  have metrics : content.trimmed.get? "metrics" = content.get? "metrics" := by
    rw [get?_trimmed, if_pos (.inr rfl)]
  simp only [clickTokens, Json.itemsOf, Json.field?, Json.asObject?, Option.bind_some, metrics]

/-- Content is as good as the full content for clicks, and of no use for displays. -/
structure StandsForClicks (full kept : MboxContent) : Prop where
  clicks : ∀ (o : Occurrence) (pending : List Notification), o.kind = .click →
    { o with content := kept }.record pending = { o with content := full }.record pending
  displays : ∀ (o : Occurrence) (pending : List Notification), o.kind = .display →
    { o with content := kept }.record pending = (none, pending)

end MboxContent

/-- The report of a click depends on the content by its click tokens only. -/
theorem Occurrence.report?_congr_of_click {o : Occurrence} {kept : MboxContent}
    (click : o.kind = .click) (same_tokens : kept.clickTokens = o.content.clickTokens) :
    { o with content := kept }.report? = o.report? := by
  simp only [report?, click]
  unfold Notification.click?
  rw [same_tokens]

theorem MboxContent.standsForClicks_trimmed (full : MboxContent) :
    full.StandsForClicks full.trimmed := by
  constructor
  · intro o pending click
    have same_report := Occurrence.report?_congr_of_click (o := { o with content := full }) click
      (clickTokens_trimmed full)
    simp only [Occurrence.record, same_report]
  · intro o pending display
    refine Occurrence.record_of_not_canBeReported pending fun can => ?_
    obtain ⟨_, told⟩ := can.state
    simp only [display] at told
    obtain ⟨held, -⟩ := told
    simp [get?_trimmed] at held

theorem Cache.getElem?_loaded_of_returned {cache : Cache} {returned : ContentMap} {name : String}
    {full : MboxContent} (is_returned : returned[name]? = some full) (says_something : name ≠ "")
    (not_prefetched : cache.prefetched[name]? = none) :
    (cache.addLoaded returned).loaded[name]? = some full.trimmed := by
  rw [getElem?_loaded_addLoaded, if_pos (loads_iff.mpr ⟨says_something, not_prefetched⟩),
    is_returned]
  rfl

theorem Cache.find?_eq_none_iff {cache : Cache} {name : String} :
    cache.find? name = none ↔ cache.prefetched[name]? = none ∧ cache.loaded[name]? = none :=
  Option.or_eq_none_iff

/-! ## Clicks -/

namespace Client

variable {m : Moment} {c : Client} {name : String} {ofCall : Option Parameters}
  {configuration : Configuration}

/-- A click is refused as not held exactly if no half of the cache holds its name. -/
theorem refused_not_held_iff
    (allowed : Configuration.forRequests c.configuration = .ok configuration)
    (here : Surroundings) (name : String) (ofCall : Option Parameters) :
    c.attempts here (.clicked name ofCall) = false ∧
        c.refusal (.clicked name ofCall) = .mboxNotCached name ↔
      c.cache.find? name = none := by
  cases held : c.cache.find? name with
  | none => simp [attempts_of_allowed allowed, hasToSend, reports, refusal, allowed, held]
  | some content => simp [refusal, allowed, held]

theorem canBeReported_clickOn_iff {here : Surroundings} {content : MboxContent} :
    (clickOn here ofCall name content).CanBeReported ↔ content.clickTokens ≠ [] :=
  ⟨fun can => MboxContent.tokens_ne_nil_iff.mpr can.token,
    fun clicked => ⟨⟨none, .click⟩, MboxContent.tokens_ne_nil_iff.mp clicked⟩⟩

/-- What a click comes to that makes a report: the report joins the pending ones, which are sent, or
stay where they are if there is no endpoint. -/
def TakesAlong (m : Moment) (c : Client) (report : Notification) : Prop :=
  (OwnFailure m .invalidUrl (c.act m) ∧ (c.act m).request = none ∧
    (c.act m).client.pending = c.pending ++ [report]) ∨
  ∃ request, (c.act m).request = some request ∧
    request.payload.notifications = c.pending ++ [report]

theorem takesAlong_of_reports {report : Notification}
    (op : m.operation = .call (.clicked name ofCall))
    (allowed : Configuration.forRequests c.configuration = .ok configuration)
    (made : c.reports m.here (.clicked name ofCall) = [report]) : TakesAlong m c report := by
  have attempted : c.attempts m.here (.clicked name ofCall) = true := by
    simp [attempts_of_allowed allowed, hasToSend, made]
  have dispatched := dispatched_of_attempts op attempted
  rwa [made] at dispatched

end Client

namespace Run

/-- The mbox that the service returned last for the half of the cache a name is in: by a prefetch,
or else, unless the name says nothing, by an execute. -/
inductive LastReturned (r : Run σ) (name : String) (full : MboxContent) : Prop
  | prefetched (last : (r.prefetches name).getLast? = some full)
  | loaded (never_prefetched : r.prefetches name = []) (says_something : name ≠ "")
      (last : (r.executions name).getLast? = some full)

variable {r : Run σ} {m : Moment} {name : String} {ofCall : Option Parameters}
  {full : MboxContent} {configuration : Configuration}

theorem lastReturned_of_loaded {kept : MboxContent}
    (held : r.client.cache.loaded[name]? = some kept) :
    ∃ full, r.LastReturned name full ∧ kept = full.trimmed := by
  rw [loaded_eq] at held
  obtain ⟨⟨says_something, never_prefetched⟩, held⟩ := Option.ite_none_right_eq_some.mp held
  obtain ⟨full, last, rfl⟩ := Option.map_eq_some_iff.mp held
  exact ⟨full, .loaded never_prefetched says_something last, rfl⟩

/-- What was returned last is held, whole or trimmed. -/
theorem LastReturned.find? (returned : r.LastReturned name full) :
    ∃ content, r.client.cache.find? name = some content ∧
      content.clickTokens = full.clickTokens := by
  cases returned with
  | prefetched last =>
    rw [← prefetched_eq] at last
    exact ⟨full, by simp [Cache.find?, last], rfl⟩
  | loaded never_prefetched says_something last =>
    refine ⟨full.trimmed, ?_, full.clickTokens_trimmed⟩
    rw [Cache.find?, prefetched_eq, loaded_eq, never_prefetched, last,
      if_pos ⟨says_something, rfl⟩]
    rfl

/-- A click reports what there is to report of the mbox that was returned last. -/
theorem LastReturned.reports (returned : r.LastReturned name full)
    (allowed : Configuration.forRequests r.client.configuration = .ok configuration)
    (here : Surroundings) (ofCall : Option Parameters) :
    r.client.reports here (.clicked name ofCall) =
      (Client.clickOn here ofCall name full).report?.toList := by
  obtain ⟨content, held, same_tokens⟩ := returned.find?
  rw [Client.reports_clicked_of_held allowed held]
  exact congrArg Option.toList (Occurrence.report?_congr_of_click
    (o := Client.clickOn here ofCall name full) rfl same_tokens)

/-- How a click comes out. It is refused as not held exactly if no half of the cache holds its name.
Otherwise it tells of the mbox that the service returned last, or is refused if there is nothing to
tell. -/
structure TellsClick (r : Run σ) (m : Moment) (name : String) (ofCall : Option Parameters) :
    Prop where
  not_held_iff : Client.OwnFailure m (.mboxNotCached name) (r.client.act m) ↔
    r.client.cache.prefetched[name]? = none ∧ r.client.cache.loaded[name]? = none
  untouched : r.client.cache.prefetched[name]? = none ∧ r.client.cache.loaded[name]? = none →
    (r.client.act m).request = none ∧ (r.client.act m).client = r.client
  prefetched : ∀ held, r.client.cache.prefetched[name]? = some held → r.LastReturned name held
  loaded : ∀ kept, r.client.cache.loaded[name]? = some kept →
    ∃ full, r.LastReturned name full ∧ kept = full.trimmed
  told : ∀ full, r.LastReturned name full →
    (Client.clickOn m.here ofCall name full).CanBeReported →
    ∃ report, (Client.clickOn m.here ofCall name full).Tells report ∧
      Client.TakesAlong m r.client report
  idle : ∀ full, r.LastReturned name full →
    ¬(Client.clickOn m.here ofCall name full).CanBeReported →
    Client.OwnFailure m .emptyRequest (r.client.act m) ∧ (r.client.act m).request = none ∧
      (r.client.act m).client = r.client

theorem tellsClick (r : Run σ) (op : m.operation = .call (.clicked name ofCall))
    (allowed : Configuration.forRequests r.client.configuration = .ok configuration) :
    r.TellsClick m name ofCall := by
  have not_held_iff := (Client.refused_not_held_iff allowed m.here name ofCall).trans
    Cache.find?_eq_none_iff
  constructor
  · exact (Client.own_early_failure_iff op rfl).trans not_held_iff
  · intro not_held
    exact Client.untouched_of_not_attempts op (not_held_iff.mpr not_held).1
  · intro held is_held
    exact .prefetched (r.prefetched_eq name ▸ is_held)
  · exact fun _ => lastReturned_of_loaded
  · intro full returned can
    obtain ⟨report, tells⟩ := Occurrence.exists_tells_iff.mpr can
    have made := returned.reports allowed m.here ofCall
    rw [Occurrence.report?_eq_some.mpr tells] at made
    exact ⟨report, tells, Client.takesAlong_of_reports op allowed made⟩
  · intro full returned cannot
    obtain ⟨content, held, same_tokens⟩ := returned.find?
    have no_tokens : full.clickTokens = [] :=
      not_not.mp fun clicked => cannot (Client.canBeReported_clickOn_iff.mpr clicked)
    have idle : r.client.IsIdleClick (.clicked name ofCall) :=
      ⟨name, ofCall, content, rfl, held, same_tokens.trans no_tokens⟩
    have refused : r.client.attempts m.here (.clicked name ofCall) = false ∧
        r.client.refusal (.clicked name ofCall) = .emptyRequest :=
      (Client.refused_empty_clicked_iff allowed).mpr idle
    exact ⟨(Client.own_early_failure_iff op rfl).mpr refused,
      Client.untouched_of_not_attempts op refused.1⟩

/-- **Clicks are told of the full content.** Content that an execute returns under a name is held in
a form that stands for it, unless the name says nothing or is prefetched: every click on it is
reported as one on the full content, and no display of it is. So in every run, under a configuration
that allows requests, a click on a name reports what there is to report of the mbox that the service
returned last for the half of the cache that holds the name. -/
theorem clicks_told_in_full :
    (∀ (cache : Cache) (returned : ContentMap) (name : String) (full : MboxContent),
      returned[name]? = some full → name ≠ "" → cache.prefetched[name]? = none →
      ∃ kept, (cache.addLoaded returned).loaded[name]? = some kept ∧
        full.StandsForClicks kept) ∧
    ∀ (r : Run σ) (m : Moment) (name : String) (ofCall : Option Parameters)
      (configuration : Configuration), m.operation = .call (.clicked name ofCall) →
      r.client.configuration = some configuration → configuration.clientCode ≠ "" →
      configuration.privacy = .optedIn → r.TellsClick m name ofCall := by
  constructor
  · intro cache returned name full is_returned says_something not_prefetched
    exact ⟨full.trimmed, Cache.getElem?_loaded_of_returned is_returned says_something
      not_prefetched, full.standsForClicks_trimmed⟩
  · intro r m name ofCall configuration op in_effect has_code opted_in
    exact r.tellsClick op (Configuration.forRequests_eq_ok.mpr ⟨in_effect, has_code, opted_in⟩)

/-- An mbox that can be displayed and clicked. -/
def withClickable : Operation → Moment :=
  let option := "\x7b\"eventToken\":\"seen\"\x7d"
  let metric := "\x7b\"type\":\"click\",\"eventToken\":\"tapped\"\x7d"
  let hero := "\x7b\"name\":\"hero\",\"state\":\"s\",\"options\":[" ++ option ++
    "],\"metrics\":[" ++ metric ++ "]\x7d"
  Client.answeredWith ("\x7b\"execute\":\x7b\"mboxes\":[" ++ hero ++ "]\x7d\x7d")

def executedHero : Run Storage where
  store := .memory
  contents := ∅
  configuration := some Client.acme
  moments := [withClickable (.call (.execute [{ name := "hero" }] none))]

/-- A click on what was trimmed is told with the token of the full mbox. -/
theorem clicks_told_in_full_of_hero :
    let m := withClickable (.call (.clicked "hero" none))
    ∃ full report, executedHero.LastReturned "hero" full ∧ full.CanBeDisplayed ∧
      report.tokens = ["tapped"] ∧ Client.TakesAlong m executedHero.client report := by
  intro m
  have in_effect : executedHero.client.configuration = some Client.acme := by decide +kernel
  have never_prefetched : (executedHero.prefetches "hero").isEmpty = true := by decide +kernel
  have executed : ((executedHero.executions "hero").getLast?.map fun full =>
      (decide full.CanBeDisplayed, full.clickTokens)) = some (true, ["tapped"]) := by
    decide +kernel
  obtain ⟨full, last, full_eq⟩ := Option.map_eq_some_iff.mp executed
  obtain ⟨displayed, tokens⟩ := Prod.mk.inj full_eq
  have returned : executedHero.LastReturned "hero" full :=
    .loaded (List.isEmpty_iff.mp never_prefetched) (by decide) last
  have click := clicks_told_in_full.2 executedHero m "hero" none Client.acme rfl
    in_effect (by decide) rfl
  have clicked : full.clickTokens ≠ [] := tokens ▸ List.cons_ne_nil _ _
  obtain ⟨report, tells, taken⟩ :=
    click.told full returned (Client.canBeReported_clickOn_iff.mpr clicked)
  obtain ⟨_, -, -, rfl⟩ := Occurrence.tells_iff.mp tells
  exact ⟨full, _, returned, of_decide_eq_true displayed, tokens, taken⟩

end Run

end ContentDelivery
