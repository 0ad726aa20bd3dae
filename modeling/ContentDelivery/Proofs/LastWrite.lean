/-
ContentDelivery.Proofs.LastWrite — what is left of writes that follow one another.

Whatever is written to in steps, be it a map, a cache or a store, holds
in each of its places what was written there last, or what it held before
(`view_foldl`). A step that is not about the place counts for nothing: the
last write is the last of the steps that write there (`IsLast`), and any
other step may be left out.
-/
import Mathlib.Data.List.Basic

namespace ContentDelivery

/-- What a fold leaves in a view is what was written to the view last, or what was there before. -/
theorem view_foldl (step : γ → α → γ) (view : γ → β) (write? : α → Option β)
    (view_step : ∀ c a, view (step c a) = (write? a).getD (view c)) (items : List α) (c : γ) :
    view (items.foldl step c) = (items.filterMap write?).getLast?.getD (view c) := by
  induction items generalizing c with
  | nil => rfl
  | cons a items ih =>
    rw [List.foldl_cons, ih, view_step]
    cases written : write? a with
    | none => simp [written]
    | some b =>
      rw [List.filterMap_cons_some written, List.getLast?_cons]
      simp

/-- Look-ups are views where nothing may be found. -/
theorem view_foldl_or (step : γ → α → γ) (view : γ → Option β) (write? : α → Option β)
    (view_step : ∀ c a, view (step c a) = (write? a).or (view c)) (items : List α) (c : γ) :
    view (items.foldl step c) = (items.filterMap write?).getLast?.or (view c) := by
  have as_getD : ∀ found before : Option β, (found.map some).getD before = found.or before := by
    intro found before
    cases found <;> rfl
  have folded := view_foldl step view (fun a => (write? a).map some)
    (fun c a => (view_step c a).trans (as_getD _ _).symm) items c
  rw [folded, ← as_getD, ← List.getLast?_map, List.map_filterMap]

/-! ## The last one -/

/-- The last item that gives something gives this. -/
inductive IsLast {α : Type u} {β : Type v} (gives : α → β → Prop) : List α → β → Prop
  | here {item : α} {rest : List α} {b : β} (given : gives item b)
      (none_later : ∀ later ∈ rest, ∀ other, ¬gives later other) : IsLast gives (item :: rest) b
  | later {item : α} {rest : List α} {b : β} (last : IsLast gives rest b) :
      IsLast gives (item :: rest) b

variable {α : Type u} {β : Type v} {gives : α → β → Prop}

theorem isLast_cons {item : α} {rest : List α} {b : β} : IsLast gives (item :: rest) b ↔
    IsLast gives rest b ∨ gives item b ∧ ∀ later ∈ rest, ∀ other, ¬gives later other := by
  constructor
  · rintro (⟨given, none_later⟩ | last)
    · exact .inr ⟨given, none_later⟩
    · exact .inl last
  · rintro (last | ⟨given, none_later⟩)
    · exact .later last
    · exact .here given none_later

theorem IsLast.exists_given {items : List α} {b : β} (last : IsLast gives items b) :
    ∃ item ∈ items, gives item b := by
  induction last with
  | here given none_later => exact ⟨_, List.mem_cons_self, given⟩
  | later last ih =>
    obtain ⟨item, among, given⟩ := ih
    exact ⟨item, List.mem_cons_of_mem _ among, given⟩

theorem isLast_iff {pick? : α → Option β} (pick?_iff : ∀ item b, pick? item = some b ↔ gives item b)
    {items : List α} {b : β} :
    IsLast gives items b ↔ (items.filterMap pick?).getLast? = some b := by
  have picks_none : ∀ item, pick? item = none ↔ ∀ other, ¬gives item other := by
    simp only [Option.eq_none_iff_forall_ne_some, ne_eq, pick?_iff, implies_true]
  induction items with
  | nil => exact iff_of_false nofun nofun
  | cons item rest ih =>
    have none_later_iff : (∀ later ∈ rest, ∀ other, ¬gives later other) ↔
        rest.filterMap pick? = [] := by
      simp only [List.filterMap_eq_nil_iff, picks_none]
    refine isLast_cons.trans ((or_congr_left ih).trans ?_)
    rw [none_later_iff, ← pick?_iff]
    cases picked : pick? item with
    | none => simp [List.filterMap_cons_none picked]
    | some c =>
      rw [List.filterMap_cons_some picked, List.getLast?_cons]
      cases last : (rest.filterMap pick?).getLast? with
      | none => simp [List.getLast?_eq_none_iff.mp last]
      | some d =>
        have some_later : rest.filterMap pick? ≠ [] := by
          intro nothing
          simp [nothing] at last
        simp [some_later]

/-- An item that gives nothing may be left out. -/
theorem isLast_without {before after : List α} {item : α} (nothing : ∀ b, ¬gives item b) {b : β} :
    IsLast gives (before ++ item :: after) b ↔ IsLast gives (before ++ after) b := by
  induction before with
  | nil =>
    rw [List.nil_append, List.nil_append, isLast_cons]
    exact or_iff_left fun ⟨given, _⟩ => nothing b given
  | cons first before ih =>
    have same_rest : (∀ later ∈ before ++ item :: after, ∀ other, ¬gives later other) ↔
        ∀ later ∈ before ++ after, ∀ other, ¬gives later other := by
      simp only [List.forall_mem_append, List.forall_mem_cons, nothing, not_false_iff,
        implies_true, true_and]
    rw [List.cons_append, List.cons_append, isLast_cons, isLast_cons, ih, same_rest]

end ContentDelivery
