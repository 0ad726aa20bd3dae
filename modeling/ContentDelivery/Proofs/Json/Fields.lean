/-
ContentDelivery.Proofs.Json.Fields — what is found in an object.

An object is put together from named values, of which the last one with
a name counts. So what is found under a name in fields that were joined
is what the later ones have under it, or else what the earlier ones have
(`get?_ofList_append`). With the two kinds of parts that objects are made
of, single values and values that may be absent, this says of every
object that is written here what it holds under a name. A value may also
be left out for what it is, such as an empty list (`get?_ofList_unless`).
Of what was read, `stringField?_eq_some` says when it holds a string
there, and `mem_itemsOf` what it lists there.
-/
import ContentDelivery.Json.Basic
import Mathlib.Data.List.Induction

namespace ContentDelivery.Json

namespace Fields

theorem get?_cons (field : String × Json) (fields : Fields) (name : String) :
    get? (field :: fields) name = if field.1 = name then some field.2 else fields.get? name := by
  by_cases same : field.1 = name <;> simp [get?, same]

/-- A value that is put under a name is found there, and changes nothing elsewhere. -/
theorem get?_insert (name : String) (value : Json) (fields : Fields) (other : String) :
    (fields.insert name value).get? other =
      if name = other then some value else fields.get? other := by
  induction fields with
  | nil => rw [insert, get?_cons]
  | cons field fields ih =>
    obtain ⟨n, v⟩ := field
    rw [insert]
    split
    · rw [get?_cons]
    · split
      · next same =>
        subst same
        rw [get?_cons, get?_cons]
        split <;> rfl
      · next differ =>
        rw [get?_cons, get?_cons, ih]
        by_cases here : n = other
        · rw [if_pos here, if_pos here, if_neg fun same => differ (same.trans here.symm)]
        · rw [if_neg here, if_neg here]

theorem get?_foldl (pairs : List (String × Json)) (fields : Fields) (name : String) :
    (pairs.foldl (fun fields pair => fields.insert pair.1 pair.2) fields).get? name =
      ((ofList pairs).get? name).or (fields.get? name) := by
  unfold ofList
  induction pairs using List.reverseRecOn with
  | nil => rfl
  | append_singleton pairs last ih =>
    simp only [List.foldl_append, List.foldl_cons, List.foldl_nil, get?_insert, ih]
    split <;> rfl

/-- Of fields that are joined the later ones count. -/
theorem get?_ofList_append (first second : List (String × Json)) (name : String) :
    (ofList (first ++ second)).get? name =
      ((ofList second).get? name).or ((ofList first).get? name) := by
  rw [ofList, List.foldl_append, get?_foldl]
  rfl

theorem get?_ofList_cons (pair : String × Json) (pairs : List (String × Json)) (name : String) :
    (ofList (pair :: pairs)).get? name =
      ((ofList pairs).get? name).or (if pair.1 = name then some pair.2 else none) := by
  rw [ofList, List.foldl_cons, get?_foldl, get?_insert]
  rfl

theorem get?_ofList_nil (name : String) : (ofList []).get? name = none := rfl

theorem get?_ofList_of_not_mem {pairs : List (String × Json)} {name : String}
    (absent : name ∉ pairs.map Prod.fst) : (ofList pairs).get? name = none := by
  induction pairs with
  | nil => rfl
  | cons pair pairs ih =>
    obtain ⟨other, absent⟩ := not_or.mp (List.mem_cons.not.mp absent)
    rw [get?_ofList_cons, ih absent, if_neg fun same => other same.symm]
    rfl

theorem get?_ofList_optionalField (name : String) (value : Option Json) (other : String) :
    (ofList (optionalField name value)).get? other = if name = other then value else none := by
  cases value with
  | none => simp [optionalField, get?_ofList_nil]
  | some value => simp [optionalField, get?_ofList_cons, get?_ofList_nil]

theorem get?_ofList_unless (name : String) (skipped : Prop) [Decidable skipped] (value : Json)
    (other : String) :
    (ofList (if skipped then [] else [(name, value)])).get? other =
      if name = other then if skipped then none else some value else none := by
  by_cases is_skipped : skipped <;> simp [is_skipped, get?_ofList_cons, get?_ofList_nil]

theorem names_optionalField (name : String) (value : Option Json) :
    ((optionalField name value).map Prod.fst).Sublist [name] := by
  cases value <;> simp [optionalField]

theorem names_unless (name : String) (skipped : Prop) [Decidable skipped] (value : Json) :
    ((if skipped then [] else [(name, value)]).map Prod.fst).Sublist [name] := by
  split <;> simp

end Fields

theorem asString?_eq_some {j : Json} {text : String} :
    j.asString? = some text ↔ j = .string text := by
  cases j <;> simp [asString?]

theorem asObject?_eq_some {j : Json} {fields : Fields} :
    j.asObject? = some fields ↔ j = .object fields := by
  cases j <;> simp [asObject?]

theorem stringField?_eq_some {name text : String} {j : Json} :
    j.stringField? name = some text ↔
      ∃ fields : Fields, j = .object fields ∧ fields.get? name = some (.string text) := by
  simp [stringField?, field?, Option.bind_eq_some_iff, asString?_eq_some, asObject?_eq_some]

theorem asArray?_eq_some {j : Json} {items : List Json} :
    j.asArray? = some items ↔ j = .array items := by
  cases j <;> simp [asArray?]

theorem itemsOf_of_listed {name : String} {fields : Fields} {items : List Json}
    (listed : fields.get? name = some (.array items)) : itemsOf name (.object fields) = items := by
  simp [itemsOf, field?, asObject?, listed, asArray?]

/-- What is no array has no items. -/
theorem itemsOf_of_unlisted {name : String} {j : Json}
    (unlisted : ∀ (fields : Fields) (items : List Json), j = .object fields →
      fields.get? name ≠ some (.array items)) : itemsOf name j = [] := by
  have no_array : (j.field? name).bind asArray? = none := by
    rw [Option.eq_none_iff_forall_ne_some]
    intro items found
    obtain ⟨_, field, array⟩ := Option.bind_eq_some_iff.mp found
    obtain ⟨fields, object, held⟩ := Option.bind_eq_some_iff.mp field
    obtain rfl := asArray?_eq_some.mp array
    exact unlisted fields items (asObject?_eq_some.mp object) held
  rw [itemsOf, no_array, Option.getD_none]

theorem mem_itemsOf {name : String} {fields : Fields} {item : Json} :
    item ∈ itemsOf name (.object fields) ↔
      ∃ items, fields.get? name = some (.array items) ∧ item ∈ items := by
  by_cases listed : ∃ items, fields.get? name = some (.array items)
  · obtain ⟨items, listed⟩ := listed
    simp [itemsOf_of_listed listed, listed]
  · have nothing : itemsOf name (.object fields) = [] := by
      refine itemsOf_of_unlisted fun _ items object held => listed ⟨items, ?_⟩
      cases object
      exact held
    rw [nothing]
    refine iff_of_false List.not_mem_nil ?_
    rintro ⟨items, held, -⟩
    exact listed ⟨items, held⟩

theorem field?_ofFields (pairs : List (String × Json)) (name : String) :
    (ofFields pairs).field? name = (Fields.ofList pairs).get? name := rfl

/-- Where no name is repeated, a name has the value that is listed with it. -/
theorem field?_ofFields_of_mem {pairs : List (String × Json)} {name : String} {value : Json}
    (distinct : (pairs.map Prod.fst).Nodup) (among : (name, value) ∈ pairs) :
    (ofFields pairs).field? name = some value := by
  rw [field?_ofFields]
  induction pairs with
  | nil => cases among
  | cons pair pairs ih =>
    obtain ⟨absent, distinct⟩ := List.nodup_cons.mp distinct
    rw [Fields.get?_ofList_cons]
    rcases List.mem_cons.mp among with rfl | later
    · rw [Fields.get?_ofList_of_not_mem absent, if_pos rfl]
      rfl
    · rw [ih distinct later]
      rfl

end ContentDelivery.Json
