/-
ContentDelivery.Proofs.Json.ReadBack — what is read of what was written.

An object that was put together is read as a record that has under each
name what `Fields.get?` finds there (`readRecord?_ofFields`), because the
fields of an object stand in the order of their names, each name once
(`Fields.pairwise_ofList`). How a field is read is then a matter of what
is found and of how its value is read, for each of the ways in which a
field may be missing.

`ReadsBack` says of a single value that it is read as it was written. It
is shown here of the values that records are made of.
-/
import ContentDelivery.Json.Decoding
import ContentDelivery.Proofs.Json.Fields
import ContentDelivery.Proofs.StringMap
import Mathlib.Data.List.Nodup

namespace ContentDelivery.Json

/-! ## The order of fields -/

namespace Fields

theorem mem_insert {name : String} {value : Json} {fields : Fields} {field : String × Json}
    (among : field ∈ fields.insert name value) : field = (name, value) ∨ field ∈ fields := by
  induction fields with
  | nil => exact .inl (List.mem_singleton.mp among)
  | cons first rest ih =>
    obtain ⟨n, v⟩ := first
    rw [insert] at among
    split at among
    · exact List.mem_cons.mp among
    · split at among
      · rcases List.mem_cons.mp among with rfl | later
        · exact .inl rfl
        · exact .inr (.tail _ later)
      · rcases List.mem_cons.mp among with rfl | later
        · exact .inr List.mem_cons_self
        · exact (ih later).imp_right (.tail _)

/-- A value is put where its name belongs. -/
theorem pairwise_insert (name : String) (value : Json) {fields : Fields}
    (sorted : fields.Pairwise fun a b => a.1 < b.1) :
    (fields.insert name value).Pairwise fun a b => a.1 < b.1 := by
  induction fields with
  | nil => exact List.pairwise_singleton _ _
  | cons first rest ih =>
    obtain ⟨n, v⟩ := first
    obtain ⟨before, sorted_rest⟩ := List.pairwise_cons.mp sorted
    rw [insert]
    split
    · next smaller =>
      refine List.pairwise_cons.mpr ⟨fun field among => ?_, sorted⟩
      rcases List.mem_cons.mp among with rfl | later
      · exact smaller
      · exact String.lt_trans smaller (before field later)
    · next not_smaller =>
      split
      · next same =>
        exact List.pairwise_cons.mpr ⟨fun field among => same ▸ before field among, sorted_rest⟩
      · next differ =>
        have larger : n < name := by
          by_contra not_larger
          exact differ (String.le_antisymm (String.not_lt.mp not_larger)
            (String.not_lt.mp not_smaller))
        refine List.pairwise_cons.mpr ⟨fun field among => ?_, ih sorted_rest⟩
        rcases mem_insert among with rfl | later
        · exact larger
        · exact before field later

theorem pairwise_ofList (pairs : List (String × Json)) :
    (ofList pairs).Pairwise fun a b => a.1 < b.1 := by
  unfold ofList
  induction pairs using List.reverseRecOn with
  | nil => exact .nil
  | append_singleton pairs last ih =>
    rw [List.foldl_append]
    exact pairwise_insert last.1 last.2 ih

theorem nodup_names_ofList (pairs : List (String × Json)) :
    ((ofList pairs).map Prod.fst).Nodup := by
  refine List.pairwise_map.mpr ((pairwise_ofList pairs).imp ?_)
  intro first second smaller same
  rw [same] at smaller
  exact String.lt_irrefl _ smaller

end Fields

/-! ## Trees of values -/

theorem itemsToSyntax_eq (items : List Json) : itemsToSyntax items = items.map toSyntax := by
  induction items with
  | nil => rfl
  | cons item items ih => rw [itemsToSyntax, List.map_cons, ih]

theorem fieldsToSyntax_eq (fields : Fields) :
    fieldsToSyntax fields = fields.map fun field => (some field.1, field.2.toSyntax) := by
  induction fields with
  | nil => rfl
  | cons field fields ih => rw [fieldsToSyntax, List.map_cons, ih]

/-! ## Records -/

theorem ofFields_ne_null (pairs : List (String × Json)) : ofFields pairs ≠ .null := nofun

/-- What stands under the names of a value. -/
def toRecord (j : Json) : Syntax.Record := fun name => (j.field? name).map toSyntax

namespace Syntax

/-- A list whose items are all read is read. -/
theorem mapM_eq_some_map {f : α → Option β} {g : α → β} {xs : List α}
    (each : ∀ x ∈ xs, f x = some (g x)) : xs.mapM f = some (xs.map g) := by
  induction xs with
  | nil => rfl
  | cons x xs ih =>
    rw [List.mapM_cons, each x List.mem_cons_self, ih fun x among => each x (.tail _ among)]
    rfl

/-- An object that was put together is read as the record of its fields. -/
theorem readRecord?_ofFields (names : List String) (pairs : List (String × Json)) :
    (ofFields pairs).toSyntax.readRecord? names = some (ofFields pairs).toRecord := by
  let entries := (Fields.ofList pairs).map fun field => (field.1, field.2.toSyntax)
  have named : (fieldsToSyntax (Fields.ofList pairs)).mapM
      (fun field => field.1.map fun name => (name, field.2)) = some entries := by
    rw [fieldsToSyntax_eq, List.mapM_map]
    exact mapM_eq_some_map fun field _ => rfl
  have once : ∀ name ∈ names,
      decide (entries.countP (fun entry => entry.1 == name) ≤ 1) = true := by
    intro name _
    have count := List.nodup_iff_count_le_one.mp (Fields.nodup_names_ofList pairs) name
    rw [List.count, List.countP_map] at count
    rw [decide_eq_true_iff, List.countP_map]
    exact count
  have found : Record.ofPairs entries = (ofFields pairs).toRecord := by
    funext name
    simp only [Record.ofPairs, entries, List.find?_map, Option.map_map, toRecord,
      field?_ofFields, Fields.get?]
    rfl
  have guarded : guard (names.all fun name => entries.countP (fun entry => entry.1 == name) ≤ 1) =
      some () := by
    rw [List.all_eq_true.mpr once]
    rfl
  rw [← found, ofFields, toSyntax, readRecord?, named]
  exact congrArg (fun checked : Option Unit => checked.bind fun _ => some (Record.ofPairs entries))
    guarded

namespace Record

variable {j value : Json} {name : String} {read : Syntax → Option α} {x y : α}

theorem required?_eq_some (found : j.field? name = some value)
    (read_eq : read value.toSyntax = some x) : j.toRecord.required? name read = some x := by
  rw [required?, toRecord, found]
  exact read_eq

theorem optional?_eq_some (found : j.field? name = some value)
    (read_eq : read value.toSyntax = some x) : j.toRecord.optional? name read y = some x := by
  rw [optional?, toRecord, found]
  exact read_eq

/-- A field that was left out is read as the value that it has when it is not there. -/
theorem optional?_of_unless (skipped : Prop) [Decidable skipped]
    (found : j.field? name = if skipped then none else some value) (default : skipped → x = y)
    (read_eq : read value.toSyntax = some x) : j.toRecord.optional? name read y = some x := by
  by_cases is_skipped : skipped
  · rw [if_pos is_skipped] at found
    rw [optional?, toRecord, found, default is_skipped]
    rfl
  · rw [if_neg is_skipped] at found
    exact optional?_eq_some found read_eq

theorem readNullable?_eq_some (not_null : value ≠ .null)
    (read_eq : read value.toSyntax = some x) :
    readNullable? read value.toSyntax = some (some x) := by
  cases value with
  | null => cases not_null rfl
  | _ =>
    simp only [toSyntax] at read_eq ⊢
    rw [readNullable?, read_eq]
    · rfl
    · rintro ⟨⟩

/-- A field that was left out because it has no value, or has one that is not null. -/
theorem nullable?_of_optional {write : α → Json} {option : Option α}
    (found : j.field? name = option.map write) (not_null : ∀ x ∈ option, write x ≠ .null)
    (read_eq : ∀ x ∈ option, read (write x).toSyntax = some x) :
    j.toRecord.nullable? name read = some option := by
  rw [nullable?, optional?, toRecord, found]
  cases option with
  | none => rfl
  | some x => exact readNullable?_eq_some (not_null x rfl) (read_eq x rfl)

/-- A field that is always written, as null if it has no value. -/
theorem nullable?_of_orNull {write : β → Json} {f : β → α} {option : Option β}
    (found : j.field? name = some ((option.map write).getD .null))
    (not_null : ∀ b ∈ option, write b ≠ .null)
    (read_eq : ∀ b ∈ option, read (write b).toSyntax = some (f b)) :
    j.toRecord.nullable? name read = some (option.map f) := by
  rw [nullable?, optional?, toRecord, found]
  cases option with
  | none => rfl
  | some b => exact readNullable?_eq_some (not_null b rfl) (read_eq b rfl)

theorem nullable?_of_textOrNull {text : Option String}
    (found : j.field? name = some (textOrNull text)) :
    j.toRecord.nullable? name readText? = some text := by
  have written : j.field? name = some ((text.map Json.string).getD .null) := found
  cases text with
  | none => exact nullable?_of_orNull (f := id) written nofun nofun
  | some text =>
    exact nullable?_of_orNull (f := id) written (fun _ _ => Json.noConfusion) fun _ _ => rfl

end Record

end Syntax

/-! ## Values -/

/-- What is written of `x` is read as `x`. -/
def ReadsBack (write : α → Json) (read : Syntax → Option α) (x : α) : Prop :=
  read (write x).toSyntax = some x

theorem readsBack_text (text : String) : ReadsBack .string Syntax.readText? text := rfl

/-- Of the floating-point numbers the finite ones have a text. -/
theorem readsBack_float {x : Binary64} (finite : x.isFinite = true) :
    ReadsBack float Syntax.readBinary64? x := by
  rw [ReadsBack, float, if_pos finite]
  rfl

theorem readIntIn?_int {lo hi n : Int} (bounds : lo ≤ n ∧ n ≤ hi) :
    (int n).toSyntax.readIntIn? lo hi = some n := if_pos bounds

theorem readsBack_int64 (n : Int64) : ReadsBack (fun n => int n.toInt) Syntax.readInt64? n := by
  have bounds : Int64.minValue.toInt ≤ n.toInt ∧ n.toInt ≤ Int64.maxValue.toInt :=
    ⟨n.minValue_le_toInt, n.toInt_le⟩
  rw [ReadsBack, Syntax.readInt64?, readIntIn?_int bounds, Option.map_some, Int64.ofInt_toInt]

theorem readsBack_uint64 (n : UInt64) : ReadsBack (fun n => int n.toNat) Syntax.readUInt64? n := by
  have bounds : (0 : Int) ≤ n.toNat ∧ (n.toNat : Int) ≤ UInt64.size - 1 := by
    have := n.toNat_lt_size
    omega
  rw [ReadsBack, Syntax.readUInt64?, Syntax.readNatBelow?, readIntIn?_int bounds, Option.map_some,
    Option.map_some, Int.toNat_natCast, UInt64.ofNat_toNat]

theorem readsBack_list {write : α → Json} {read : Syntax → Option α} {xs : List α}
    (each : ∀ x ∈ xs, ReadsBack write read x) :
    ReadsBack (fun xs => .array (xs.map write)) (Syntax.readList? read) xs := by
  rw [ReadsBack, toSyntax, itemsToSyntax_eq, List.map_map, Syntax.readList?, List.mapM_map]
  exact (Syntax.mapM_eq_some_map each).trans (congrArg some (List.map_id _))

theorem readsBack_strings (items : List String) :
    ReadsBack strings (Syntax.readList? Syntax.readText?) items :=
  readsBack_list fun text _ => readsBack_text text

end ContentDelivery.Json

namespace ContentDelivery.StringMap

open Json (Syntax)

theorem readsBack (m : StringMap) : Json.ReadsBack toJson ofSyntax? m := by
  have pairs : m.toJson.toSyntax.readTextPairs? = some m.toList := by
    rw [toJson, Json.toSyntax, Json.fieldsToSyntax_eq, List.map_map, Syntax.readTextPairs?,
      List.mapM_map]
    refine (Syntax.mapM_eq_some_map fun entry _ => ?_).trans (congrArg some (List.map_id _))
    rfl
  rw [Json.ReadsBack, ofSyntax?, pairs, Option.map_some, ofList_toList]

end ContentDelivery.StringMap
