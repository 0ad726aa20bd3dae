/-
ContentDelivery.Proofs.Client.Displays — which displays a call reports.

A call that reports displays brings names, in whatever order, some of them
repeated, empty or unknown. What it reports can be said without the loop
over the names: everything prefetched under one of them that can be
displayed (`Cache.Selects`), with one report for each (`TellDisplays`).
`displays_selected` says so of every run, and when there is nothing to
report.

The loop passes over loaded names too. In a run that excludes nothing,
since no name is loaded that is prefetched (`loaded_of_prefetched`); of a
cache by itself it does not hold, so that `selects_displayable` asks for it.
-/
import ContentDelivery.Proofs.Client.Content
import ContentDelivery.Proofs.Client.NothingToSend
import ContentDelivery.Proofs.Parameters.Precedence
import Mathlib.Data.List.Forall2

namespace ContentDelivery

/-! ## First occurrences -/

/-- Where repetitions are erased, the items are left in the order in which they first occur. -/
theorem pairwise_idxOf_eraseDups_filter [BEq α] [LawfulBEq α] (p : α → Bool) (items : List α) :
    (items.filter p).eraseDups.Pairwise fun a b => items.idxOf a < items.idxOf b := by
  induction items generalizing p with
  | nil => exact .nil
  | cons item items ih =>
    -- Erasing the repetitions of `item` narrows the filter, so the induction is over every filter.
    have pairwise_of_others : ∀ q : α → Bool, q item = false →
        (items.filter q).eraseDups.Pairwise fun a b =>
          (item :: items).idxOf a < (item :: items).idxOf b := by
      intro q others
      have other : ∀ a ∈ (items.filter q).eraseDups, item ≠ a := by
        rintro a among rfl
        have kept := (List.mem_filter.mp (List.mem_eraseDups.mp among)).2
        cases others.symm.trans kept
      refine (ih q).imp_of_mem fun {a b} a_among b_among before => ?_
      rw [List.idxOf_cons_ne _ (other a a_among), List.idxOf_cons_ne _ (other b b_among)]
      exact Nat.succ_lt_succ before
    cases kept : p item with
    | false =>
      rw [List.filter_cons_of_neg (Bool.not_eq_true _ ▸ kept)]
      exact pairwise_of_others p kept
    | true =>
      rw [List.filter_cons_of_pos kept, List.eraseDups_cons, List.filter_filter]
      refine List.pairwise_cons.mpr ⟨?_, pairwise_of_others _ (by simp)⟩
      intro b among
      have other : item ≠ b := by
        rintro rfl
        simp at among
      rw [List.idxOf_cons_self, List.idxOf_cons_ne _ other]
      exact Nat.succ_pos _

/-! ## Content to report -/

namespace Cache

/-- What is displayed under some names: the content that is prefetched under them and can be
displayed, each once, in the order in which the names first occur. The empty name shows nothing. -/
structure Selects (cache : Cache) (names : List String) (shown : List (String × MboxContent)) :
    Prop where
  mem_iff : ∀ (name : String) (content : MboxContent), (name, content) ∈ shown ↔
    name ∈ names ∧ name ≠ "" ∧ cache.prefetched[name]? = some content ∧ content.CanBeDisplayed
  in_order : shown.Pairwise fun first second => names.idxOf first.1 < names.idxOf second.1

theorem selects_displayable {cache : Cache}
    (apart : ∀ (name : String) (content : MboxContent),
      cache.prefetched[name]? = some content → cache.loaded[name]? = none)
    (names : List String) :
    cache.Selects names
      ((Client.displayable names cache).filter fun entry => entry.2.CanBeDisplayed) := by
  have found : ∀ (name : String) (entry : String × MboxContent),
      (if cache.loaded.contains name then none
        else cache.prefetched[name]?.map fun content => (name, content)) = some entry ↔
      entry.1 = name ∧ cache.prefetched[name]? = some entry.2 := by
    rintro name ⟨n, content⟩
    cases held : cache.prefetched[name]? with
    | none => simp
    | some other =>
      have not_loaded : cache.loaded.contains name = false := by
        simp [Std.ExtTreeMap.contains_eq_isSome_getElem?, apart name other held]
      simp [not_loaded, Prod.ext_iff, eq_comm]
  constructor
  · intro name content
    simp only [Client.displayable, List.mem_filter, List.mem_filterMap, List.mem_eraseDups, found]
    constructor
    · rintro ⟨⟨_, ⟨among, says_something⟩, rfl, held⟩, displayed⟩
      exact ⟨among, by simpa using says_something, held, of_decide_eq_true displayed⟩
    · rintro ⟨among, says_something, held, displayed⟩
      exact ⟨⟨name, ⟨among, by simpa using says_something⟩, rfl, held⟩, decide_eq_true displayed⟩
  · refine List.Pairwise.filter _ (List.Pairwise.filterMap _ ?_
      (pairwise_idxOf_eraseDups_filter (!·.isEmpty) names))
    intro a b before entry entry_eq later later_eq
    rw [((found _ _).mp entry_eq).1, ((found _ _).mp later_eq).1]
    exact before

/-- The selection is determined: its members are, and so is their order. -/
theorem Selects.unique {cache : Cache} {names : List String}
    {shown others : List (String × MboxContent)} (selects : cache.Selects names shown)
    (selects_others : cache.Selects names others) : shown = others := by
  have nodup : ∀ {entries}, cache.Selects names entries → entries.Nodup := by
    intro entries selects
    refine selects.in_order.imp ?_
    rintro first _ before rfl
    exact Nat.lt_irrefl _ before
  have perm : shown.Perm others := by
    rw [List.perm_ext_iff_of_nodup (nodup selects) (nodup selects_others)]
    rintro ⟨name, content⟩
    rw [selects.mem_iff, selects_others.mem_iff]
  refine perm.eq_of_pairwise ?_ selects.in_order selects_others.in_order
  intro first second _ _ before after
  exact absurd before (Nat.lt_asymm after)

end Cache

namespace Client

variable {here : Surroundings} {parameters : Parameters}

/-- Reports of displays, one of each: they have the ids that are made now, by their number, and in
common the time and the parameters. -/
def TellDisplays (here : Surroundings) (parameters : Parameters)
    (shown : List (String × MboxContent)) (made : List Notification) : Prop :=
  List.Forall₂ (fun entry report =>
    Notification.TellsDisplay (here.freshNotificationId entry.2) here.millis parameters
      entry.1.1 entry.1.2 report) shown.zipIdx made

theorem displays_concat (shown : List (String × MboxContent)) (name : String)
    (content : MboxContent) :
    displays here parameters (shown ++ [(name, content)]) =
      displays here parameters shown ++
        (Notification.display? (here.freshNotificationId (displays here parameters shown).length)
          here.millis parameters name content).toList := by
  simp [displays]

/-- Content that cannot be displayed is passed over, and takes no number. -/
theorem tellDisplays_displays (here : Surroundings) (parameters : Parameters)
    (shown : List (String × MboxContent)) :
    TellDisplays here parameters (shown.filter fun entry => entry.2.CanBeDisplayed)
      (displays here parameters shown) := by
  induction shown using List.reverseRecOn with
  | nil => exact .nil
  | append_singleton shown entry ih =>
    obtain ⟨name, content⟩ := entry
    have numbered := ih.length_eq
    rw [List.length_zipIdx] at numbered
    rw [displays_concat, List.filter_append, ← numbered]
    cases told : Notification.display? (here.freshNotificationId
        (shown.filter fun entry => entry.2.CanBeDisplayed).length) here.millis parameters name
        content with
    | none =>
      have not_displayed : ¬content.CanBeDisplayed := by
        rw [← Notification.isSome_display?, told]
        exact Bool.false_ne_true
      simpa [not_displayed] using ih
    | some report =>
      have displayed : content.CanBeDisplayed := by
        rw [← Notification.isSome_display?, told]
        rfl
      have told_last := Notification.tellsDisplay_of_display? told
      simpa [TellDisplays, displayed, List.zipIdx_append] using
        List.rel_append ih (.cons told_last .nil)

theorem TellDisplays.eq_nil_iff {shown : List (String × MboxContent)} {made : List Notification}
    (tell : TellDisplays here parameters shown made) : made = [] ↔ shown = [] := by
  rw [← List.length_eq_zero_iff, ← List.length_eq_zero_iff, ← tell.length_eq, List.length_zipIdx]

end Client

/-! ## Runs -/

namespace Run

/-- No name is loaded that is prefetched. -/
theorem loaded_of_prefetched (r : Run σ) {name : String} {content : MboxContent}
    (held : r.client.cache.prefetched[name]? = some content) :
    r.client.cache.loaded[name]? = none := by
  have was_prefetched : ¬(name ≠ "" ∧ r.prefetches name = []) := by
    rintro ⟨-, never⟩
    rw [prefetched_eq, never] at held
    cases held
  rw [loaded_eq, if_neg was_prefetched]

/-- The reports of a call tell the displays of what it selects. -/
theorem exists_selects (r : Run σ) (here : Surroundings) {configuration : Configuration}
    (allowed : Configuration.forRequests r.client.configuration = .ok configuration)
    (names : List String) (ofCall : Option Parameters) :
    ∃ shown parameters, r.client.cache.Selects names shown ∧
      Parameters.DecidedBy (some here.facts.contextData) none ofCall parameters ∧
      Client.TellDisplays here parameters shown
        (r.client.reports here (.displayed names ofCall)) := by
  refine ⟨_, _, Cache.selects_displayable (fun _ _ => r.loaded_of_prefetched) names,
    Parameters.decidedBy_merge _ _ _, ?_⟩
  simp only [Client.reports, allowed]
  exact Client.tellDisplays_displays here _ _

/-- **A call reports the displays of what is prefetched under its names.** Under a configuration
that allows requests, it makes one report for each of them, in the order in which the names first
occur, with the parameters of the call over those of the lifecycle, and adds them to the pending
ones. It is refused as empty exactly if there are neither, and does nothing then. Otherwise all of
them are sent, or stay pending if there is no endpoint. What is loaded does not count, since no name
is loaded that is prefetched. -/
theorem displays_selected (r : Run σ) {m : Moment} {names : List String}
    {ofCall : Option Parameters} {configuration : Configuration}
    (op : m.operation = .call (.displayed names ofCall))
    (in_effect : r.client.configuration = some configuration)
    (has_code : configuration.clientCode ≠ "") (opted_in : configuration.privacy = .optedIn) :
    let c := r.client
    let step := c.act m
    ∃ (shown : List (String × MboxContent)) (parameters : Parameters) (made : List Notification),
      c.cache.Selects names shown ∧
      Parameters.DecidedBy (some m.here.facts.contextData) none ofCall parameters ∧
      Client.TellDisplays m.here parameters shown made ∧
      (Client.OwnFailure m .emptyRequest step ↔ c.pending = [] ∧ shown = []) ∧
      (c.pending = [] ∧ shown = [] → step.request = none ∧ step.client = c) ∧
      (¬(c.pending = [] ∧ shown = []) →
        (Client.OwnFailure m .invalidUrl step ∧ step.request = none ∧
          step.client.pending = c.pending ++ made) ∨
        ∃ request, step.request = some request ∧
          request.payload.notifications = c.pending ++ made) ∧
      ∀ (name : String) (content : MboxContent),
        c.cache.prefetched[name]? = some content → c.cache.loaded[name]? = none := by
  intro c step
  have allowed : Configuration.forRequests c.configuration = .ok configuration :=
    Configuration.forRequests_eq_ok.mpr ⟨in_effect, has_code, opted_in⟩
  obtain ⟨shown, parameters, selected, decided, tell⟩ :=
    r.exists_selects m.here allowed names ofCall
  have no_click : (Call.displayed names ofCall).kind ≠ .clicked := nofun
  have not_attempts_iff : c.attempts m.here (.displayed names ofCall) = false ↔
      c.pending = [] ∧ shown = [] := by
    rw [Client.not_attempts_iff_of_kind allowed no_click, List.append_eq_nil_iff, tell.eq_nil_iff]
    exact and_iff_right rfl
  refine ⟨shown, parameters, _, selected, decided, tell, ?_, ?_, ?_,
    fun _ _ => r.loaded_of_prefetched⟩
  · rw [Client.own_early_failure_iff op rfl, not_attempts_iff]
    exact and_iff_left (Client.refusal_of_kind allowed no_click)
  · intro nothing
    exact Client.untouched_of_not_attempts op (not_attempts_iff.mpr nothing)
  · intro something
    refine Client.dispatched_of_attempts op ?_
    rwa [← Bool.not_eq_false, not_attempts_iff]

/-- Two prefetched mboxes, of which only `hero` can be displayed. -/
def withHero : Operation → Moment :=
  let option := "\x7b\"eventToken\":\"token\"\x7d"
  let hero := "\x7b\"name\":\"hero\",\"state\":\"seen\",\"options\":[" ++ option ++ "]\x7d"
  let plain := "\x7b\"name\":\"plain\",\"state\":\"seen\"\x7d"
  Client.answeredWith ("\x7b\"prefetch\":\x7b\"mboxes\":[" ++ plain ++ "," ++ hero ++ "]\x7d\x7d")

def prefetchedHero : Run Storage where
  store := .memory
  contents := ∅
  configuration := some Client.acme
  moments := [withHero (.call (.prefetch [{ name := "hero" }, { name := "plain" }] none))]

/-- Of five names one is reported, and once, though it is given twice. -/
theorem displays_selected_once :
    let names := ["plain", "hero", "", "other", "hero"]
    let step := prefetchedHero.client.act (withHero (.call (.displayed names none)))
    ∃ content report request, prefetchedHero.client.cache.Selects names [("hero", content)] ∧
      step.request = some request ∧ request.payload.notifications = [report] ∧
      report.mboxName = "hero" := by
  intro names step
  have in_effect : prefetchedHero.client.configuration = some Client.acme := by decide +kernel
  have none_pending : prefetchedHero.client.pending = [] := by decide +kernel
  have asked : step.request.isSome = true := by decide +kernel
  obtain ⟨shown, parameters, made, selected, -, tell, -, -, sent, apart⟩ :=
    prefetchedHero.displays_selected (m := withHero (.call (.displayed names none))) rfl in_effect
      (by decide) rfl
  have names_eq : shown.map Prod.fst = ["hero"] := by
    rw [selected.unique (Cache.selects_displayable apart names)]
    decide +kernel
  obtain ⟨⟨name, content⟩, rfl, name_eq⟩ := List.map_eq_singleton_iff.mp names_eq
  obtain rfl : name = "hero" := name_eq
  cases tell with
  | @cons _ report _ _ tells rest =>
    cases rest
    rcases sent (by simp) with ⟨-, unasked, -⟩ | ⟨request, asked, notifications⟩
    · cases unasked ▸ asked
    · rw [none_pending, List.nil_append] at notifications
      exact ⟨content, report, request, selected, asked, notifications, tells.mboxName⟩

end Run

end ContentDelivery
