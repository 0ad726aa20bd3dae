/-
ContentDelivery.Proofs.Content.Merging — what a name holds after content was merged.

Content is merged one mbox after another, into the mboxes of a reply and
into both halves of the cache. What a name holds in the end is what was
written under it last, or what it held before (`view_foldl`). From that
follow the look-ups in a merged map: a reply holds the last mbox of a
name (`getElem?_mboxes`), prefetched content replaces what there was and
takes its name from the loaded content, and loaded content goes only
under names that say something and were not prefetched.
-/
import ContentDelivery.Client.Reconciliation
import ContentDelivery.Proofs.LastWrite

namespace ContentDelivery

/-! ## Entries -/

/-- A map lists each of its names once. -/
theorem getLast?_filterMap_toList (m : ContentMap) (name : String) (f : MboxContent → β) :
    (m.toList.filterMap fun (n, mbox) => if n = name then some (f mbox) else none).getLast? =
      m[name]?.map f := by
  cases held : m[name]? with
  | none =>
    have nowhere : ∀ entry ∈ m.toList, entry.1 ≠ name := by
      rintro ⟨n, mbox⟩ listed rfl
      rw [Std.ExtTreeMap.mem_toList_iff_getElem?_eq_some] at listed
      cases held.symm.trans listed
    rw [List.filterMap_eq_nil_iff.mpr]
    · rfl
    · intro entry listed
      exact if_neg (nowhere entry listed)
  | some mbox =>
    have listed := Std.ExtTreeMap.mem_toList_iff_getElem?_eq_some.mpr held
    have all_same : ∀ b ∈ m.toList.filterMap fun (n, mbox) =>
        if n = name then some (f mbox) else none, b = f mbox := by
      intro b among
      obtain ⟨⟨n, other⟩, other_listed, other_eq⟩ := List.mem_filterMap.mp among
      obtain ⟨rfl, b_eq⟩ : n = name ∧ f other = b := by simpa using other_eq
      rw [Std.ExtTreeMap.mem_toList_iff_getElem?_eq_some] at other_listed
      obtain rfl := Option.some.inj (held.symm.trans other_listed)
      exact b_eq.symm
    have some_there : f mbox ∈ m.toList.filterMap fun (n, mbox) =>
        if n = name then some (f mbox) else none :=
      List.mem_filterMap.mpr ⟨(name, mbox), listed, by simp⟩
    rw [List.getLast?_eq_some_getLast (List.ne_nil_of_mem some_there)]
    exact congrArg some (all_same _ (List.getLast_mem _))

/-! ## Mboxes -/

namespace MboxContent

theorem mem_trimmed {mbox : MboxContent} {field : String × Json} :
    field ∈ mbox.trimmed ↔ field ∈ mbox ∧ (field.1 = "name" ∨ field.1 = "metrics") := by
  simp [trimmed, loadedFields, Json.Fields.restrict]

theorem get?_trimmed (name : String) (mbox : MboxContent) :
    mbox.trimmed.get? name =
      if name = "name" ∨ name = "metrics" then mbox.get? name else none := by
  unfold trimmed Json.Fields.restrict Json.Fields.get?
  rw [List.find?_filter]
  have looked_for : ∀ field : String × Json,
      (loadedFields.contains field.1 = true ∧ (field.1 == name) = true) ↔
        ((name = "name" ∨ name = "metrics") ∧ (field.1 == name) = true) := by
    intro field
    refine and_congr_left fun same => ?_
    rw [beq_iff_eq.mp same]
    simp [loadedFields]
  simp only [looked_for]
  by_cases kept : name = "name" ∨ name = "metrics"
  · simp only [kept, true_and, Bool.decide_eq_true, if_true]
  · simp [kept]

end MboxContent

namespace DeliveryReply

/-- The items of a section. -/
def items (sectionName : String) (r : DeliveryReply) : List Json :=
  ((r.body.get? sectionName).map (Json.itemsOf "mboxes")).getD []

/-- The mboxes of a name among the items of a section: the objects with that name. -/
def named (sectionName name : String) (r : DeliveryReply) : List MboxContent :=
  (r.items sectionName).filterMap fun item =>
    if item.stringField? "name" = some name then item.asObject? else none

theorem name_of_mem_named {sectionName name : String} {r : DeliveryReply} {mbox : MboxContent}
    (h : mbox ∈ r.named sectionName name) : mbox.get? "name" = some (.string name) := by
  obtain ⟨item, -, item_eq⟩ := List.mem_filterMap.mp h
  obtain ⟨is_named, is_object⟩ := Option.ite_none_right_eq_some.mp item_eq
  obtain ⟨value, value_eq, is_string⟩ := Option.bind_eq_some_iff.mp is_named
  rw [Json.field?, is_object, Option.bind_some] at value_eq
  cases value <;> simp_all [Json.asString?]

theorem named?_eq (item : Json) :
    named? item = item.asObject?.bind fun fields =>
      (item.stringField? "name").map fun name => (name, fields) := by
  unfold named?
  cases item.asObject? with
  | none => rfl
  | some fields => cases item.stringField? "name" <;> rfl

/-- Under a name there is the last mbox of that name. -/
theorem getElem?_mboxes (sectionName name : String) (r : DeliveryReply) :
    (r.mboxes sectionName)[name]? = (r.named sectionName name).getLast? := by
  have folded := view_foldl_or (fun (m : ContentMap) entry => m.insert entry.1 entry.2)
    (fun m => m[name]?)
    (fun entry => if entry.1 = name then some entry.2 else none)
    (by
      intro m entry
      by_cases same : entry.1 = name <;> simp [Std.ExtTreeMap.getElem?_insert, same])
    ((r.items sectionName).filterMap named?) ∅
  have written : ∀ item : Json,
      (named? item).bind (fun entry => if entry.1 = name then some entry.2 else none) =
        if item.stringField? "name" = some name then item.asObject? else none := by
    intro item
    rw [named?_eq]
    cases item.asObject? with
    | none => simp
    | some fields => cases item.stringField? "name" <;> simp
  unfold mboxes
  rw [Std.ExtTreeMap.ofList_eq_foldl]
  refine folded.trans ?_
  rw [List.filterMap_filterMap]
  simp [named, written]

end DeliveryReply

/-! ## The cache -/

namespace Cache

theorem getElem?_prefetched_addPrefetched (returned : ContentMap) (c : Cache) (name : String) :
    (c.addPrefetched returned).prefetched[name]? =
      returned[name]?.or c.prefetched[name]? := by
  have folded := view_foldl_or (fun (c : Cache) entry => c.putPrefetched entry.1 entry.2)
    (fun c => c.prefetched[name]?)
    (fun entry => if entry.1 = name then some entry.2 else none)
    (by
      intro c entry
      by_cases same : entry.1 = name <;>
        simp [putPrefetched, Std.ExtTreeMap.getElem?_insert, same])
    returned.toList c
  rw [getLast?_filterMap_toList returned name fun mbox => mbox, Option.map_id'] at folded
  exact folded

/-- A name that is prefetched leaves the loaded content. -/
theorem getElem?_loaded_addPrefetched (returned : ContentMap) (c : Cache) (name : String) :
    (c.addPrefetched returned).loaded[name]? =
      if returned[name]?.isSome then none else c.loaded[name]? := by
  have folded := view_foldl (fun (c : Cache) entry => c.putPrefetched entry.1 entry.2)
    (fun c => c.loaded[name]?)
    (fun entry => if entry.1 = name then some none else none)
    (by
      intro c entry
      by_cases same : entry.1 = name <;>
        simp [putPrefetched, Std.ExtTreeMap.getElem?_erase, same])
    returned.toList c
  rw [getLast?_filterMap_toList returned name fun _ => none] at folded
  refine folded.trans ?_
  cases returned[name]? <;> rfl

/-- Whether loaded content may go under a name. -/
def loads (name : String) (c : Cache) : Bool := !(name.isEmpty || c.prefetched.contains name)

theorem loads_iff {name : String} {c : Cache} :
    c.loads name = true ↔ name ≠ "" ∧ c.prefetched[name]? = none := by
  have absent : c.prefetched[name]? = none ↔ c.prefetched.contains name = false := by
    rw [Std.ExtTreeMap.contains_eq_isSome_getElem?, Option.isSome_eq_false_iff,
      Option.isNone_iff_eq_none]
  simp only [loads, absent]
  simp

theorem putLoaded_eq (name : String) (mbox : MboxContent) (c : Cache) :
    c.putLoaded name mbox =
      { c with
        loaded := if c.loads name then c.loaded.insert name mbox.trimmed else c.loaded } := by
  unfold putLoaded loads
  cases name.isEmpty || c.prefetched.contains name <;> rfl

/-- Loading content does not touch what was prefetched, so that the same names are passed over
throughout. -/
theorem addLoaded_eq (returned : ContentMap) (c : Cache) :
    c.addLoaded returned =
      { c with
        loaded := returned.toList.foldl (fun (loaded : ContentMap) (name, mbox) =>
          if c.loads name then loaded.insert name mbox.trimmed else loaded) c.loaded } := by
  unfold addLoaded
  generalize returned.toList = entries
  induction entries generalizing c with
  | nil => rfl
  | cons entry entries ih =>
    rw [List.foldl_cons, List.foldl_cons, ih]
    simp only [putLoaded_eq]
    rfl

theorem prefetched_addLoaded (returned : ContentMap) (c : Cache) :
    (c.addLoaded returned).prefetched = c.prefetched := by rw [addLoaded_eq]

theorem getElem?_loaded_addLoaded (returned : ContentMap) (c : Cache) (name : String) :
    (c.addLoaded returned).loaded[name]? =
      if c.loads name then (returned[name]?.map MboxContent.trimmed).or c.loaded[name]?
      else c.loaded[name]? := by
  have folded := view_foldl_or
    (fun (loaded : ContentMap) (entry : String × MboxContent) =>
      if c.loads entry.1 then loaded.insert entry.1 entry.2.trimmed else loaded)
    (fun loaded => loaded[name]?)
    (fun entry =>
      if entry.1 = name then if c.loads name then some entry.2.trimmed else none else none)
    (by
      intro loaded entry
      by_cases same : entry.1 = name
      · cases loads : c.loads name <;> simp [same, loads]
      · cases c.loads entry.1 <;> simp [Std.ExtTreeMap.getElem?_insert, same])
    returned.toList c.loaded
  rw [addLoaded_eq]
  refine folded.trans ?_
  cases c.loads name with
  | false => simp
  | true =>
    have last := getLast?_filterMap_toList returned name MboxContent.trimmed
    simp only [if_true]
    exact congrArg (Option.or · _) last

end Cache

end ContentDelivery
