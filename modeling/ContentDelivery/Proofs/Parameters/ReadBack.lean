/-
ContentDelivery.Proofs.Parameters.ReadBack — parameters are read as they were written.

`Parameters.read_back_settled`: what parameters are written as is read as
the same parameters, if the total of their order is finite; and whatever
JSON parameters were read from, with unknown fields, with empty maps or
with nulls, writing them and reading them again changes nothing.

The second part is a case of the first. Parameters that were read have a
finite total, because JSON has no other numbers: the number of a text is
whole, of 64 bits, or finite, and so is every number in a JSON value that
is none but these (`Syntax.Sound`).
-/
import ContentDelivery.Proofs.Exchange.Encoding
import ContentDelivery.Proofs.Json.Numbers
import ContentDelivery.Proofs.Json.ReadBack

namespace ContentDelivery

open Json (Syntax ReadsBack)

attribute [local simp] Json.field?_ofFields Json.Fields.get?_ofList_append
  Json.Fields.get?_ofList_cons Json.Fields.get?_ofList_nil Json.Fields.get?_ofList_optionalField
  Json.Fields.get?_ofList_unless

/-! ## What is written is read -/

theorem OrderDetails.readsBack {o : OrderDetails} (finite : o.total.isFinite = true) :
    ReadsBack toJson ofSyntax? o := by
  have record : o.toJson.toSyntax.readRecord? fieldNames = some o.toJson.toRecord :=
    Syntax.readRecord?_ofFields fieldNames _
  have id : o.toJson.toRecord.required? "id" Syntax.readText? = some o.id :=
    Syntax.Record.required?_eq_some (by simp [toJson]) (Json.readsBack_text o.id)
  have total : o.toJson.toRecord.required? "total" Syntax.readBinary64? = some o.total :=
    Syntax.Record.required?_eq_some (by simp [toJson]) (Json.readsBack_float finite)
  have purchasedProductIds :
      o.toJson.toRecord.optional? "purchasedProductIds" (Syntax.readList? Syntax.readText?) [] =
        some o.purchasedProductIds :=
    Syntax.Record.optional?_of_unless (o.purchasedProductIds = []) (by simp [toJson]) (·)
      (Json.readsBack_strings o.purchasedProductIds)
  simp [ReadsBack, ofSyntax?, record, id, total, purchasedProductIds]

theorem ProductDetails.readsBack (p : ProductDetails) : ReadsBack toJson ofSyntax? p := by
  have record : p.toJson.toSyntax.readRecord? fieldNames = some p.toJson.toRecord :=
    Syntax.readRecord?_ofFields fieldNames _
  have id : p.toJson.toRecord.required? "id" Syntax.readText? = some p.id :=
    Syntax.Record.required?_eq_some (by simp [toJson]) (Json.readsBack_text p.id)
  have categoryId : p.toJson.toRecord.required? "categoryId" Syntax.readText? = some p.categoryId :=
    Syntax.Record.required?_eq_some (by simp [toJson]) (Json.readsBack_text p.categoryId)
  simp [ReadsBack, ofSyntax?, record, id, categoryId]

namespace Parameters

theorem readsBack {p : Parameters} (finite : p.FiniteTotal) : ReadsBack toJson ofSyntax? p := by
  have record : p.toJson.toSyntax.readRecord? fieldNames = some p.toJson.toRecord :=
    Syntax.readRecord?_ofFields fieldNames _
  have parameters :
      p.toJson.toRecord.optional? "parameters" StringMap.ofSyntax? ∅ = some p.parameters :=
    Syntax.Record.optional?_of_unless (p.parameters = ∅) (by simp [toJson, fields]) (·)
      (StringMap.readsBack p.parameters)
  have profileParameters :
      p.toJson.toRecord.optional? "profileParameters" StringMap.ofSyntax? ∅ =
        some p.profileParameters :=
    Syntax.Record.optional?_of_unless (p.profileParameters = ∅) (by simp [toJson, fields]) (·)
      (StringMap.readsBack p.profileParameters)
  have order_written : p.toJson.field? "order" = p.order.map OrderDetails.toJson := by
    simp [toJson, fields]
  have order : p.toJson.toRecord.nullable? "order" OrderDetails.ofSyntax? = some p.order :=
    Syntax.Record.nullable?_of_optional order_written (fun _ _ => Json.ofFields_ne_null _)
      fun o among => OrderDetails.readsBack (finite o among)
  have product_written : p.toJson.field? "product" = p.product.map ProductDetails.toJson := by
    simp [toJson, fields]
  have product :
      p.toJson.toRecord.nullable? "product" ProductDetails.ofSyntax? = some p.product :=
    Syntax.Record.nullable?_of_optional product_written (fun _ _ => Json.ofFields_ne_null _)
      fun product _ => product.readsBack
  simp [ReadsBack, ofSyntax?, record, parameters, profileParameters, order, product]

end Parameters

/-! ## What is read is finite -/

theorem OrderDetails.isFinite_total {s : Syntax} {o : OrderDetails} (sound : s.Sound)
    (read : ofSyntax? s = some o) : o.total.isFinite = true := by
  obtain ⟨r, record, read⟩ := Option.bind_eq_some_iff.mp read
  obtain ⟨id, -, read⟩ := Option.bind_eq_some_iff.mp read
  obtain ⟨total, total_read, read⟩ := Option.bind_eq_some_iff.mp read
  obtain ⟨purchasedProductIds, -, read⟩ := Option.bind_eq_some_iff.mp read
  cases read
  obtain ⟨value, present, number⟩ := Syntax.Record.exists_of_required? total_read
  exact Syntax.isFinite_of_readBinary64? (Syntax.sound_of_readRecord? sound record present) number

namespace Parameters

theorem finiteTotal_of_ofSyntax? {s : Syntax} {p : Parameters} (sound : s.Sound)
    (read : ofSyntax? s = some p) : p.FiniteTotal := by
  obtain ⟨r, record, read⟩ := Option.bind_eq_some_iff.mp read
  obtain ⟨parameters, -, read⟩ := Option.bind_eq_some_iff.mp read
  obtain ⟨profileParameters, -, read⟩ := Option.bind_eq_some_iff.mp read
  obtain ⟨order, order_read, read⟩ := Option.bind_eq_some_iff.mp read
  obtain ⟨product, -, read⟩ := Option.bind_eq_some_iff.mp read
  cases read
  intro o among
  obtain ⟨value, present, details⟩ := Syntax.Record.exists_of_nullable? order_read among
  exact OrderDetails.isFinite_total (Syntax.sound_of_readRecord? sound record present) details

/-- Parameters are read as they were written, with every bit of the total. What was read from
other JSON, where fields are unknown, empty or null, is settled by that: it does not change any
more when it is written and read again. Of a text nothing need be known. -/
theorem read_back_settled :
    (∀ p : Parameters, p.FiniteTotal → ofJson? p.toJson = some p) ∧
    (∀ j : Json, j.toSyntax.Sound → ∀ p, ofJson? j = some p → ofJson? p.toJson = some p) ∧
    (∀ text p, (Syntax.ofText? text).bind ofSyntax? = some p → ofJson? p.toJson = some p) := by
  refine ⟨fun p finite => readsBack finite, fun j sound p read => ?_, fun text p read => ?_⟩
  · exact readsBack (finiteTotal_of_ofSyntax? sound read)
  · obtain ⟨s, tree, read⟩ := Option.bind_eq_some_iff.mp read
    exact readsBack (finiteTotal_of_ofSyntax? (Syntax.sound_of_ofText? tree) read)

/-- An order of two products, a value with a null, an empty map and an unknown field, and a text
whose total is a whole number. -/
theorem read_back_settled_of_each :
    let p : Parameters := { order := some ⟨"o", ⟨0x4048fd70a3d70a3d⟩, ["a", "b"]⟩ }
    let j : Json := .object [("order", .null), ("other", .int 3), ("parameters", .object [])]
    let text := "\x7b\"order\": \x7b\"id\": \"o\", \"total\": 42\x7d, \"other\": [1.5]\x7d"
    let q : Parameters := { order := some ⟨"o", .ofNat 42, []⟩ }
    p.FiniteTotal ∧ ofJson? p.toJson = some p ∧
    j.toSyntax.Sound ∧ ofJson? j = some ∅ ∧ ofJson? (toJson ∅) = some ∅ ∧
    (Syntax.ofText? text).bind ofSyntax? = some q ∧ ofJson? q.toJson = some q := by
  intro p j text q
  have finite : p.FiniteTotal := by
    rintro _ ⟨⟩
    decide +kernel
  have sound : j.toSyntax.Sound := by
    have whole : ∀ n ∈ some (JsonNumber.int 3), n.IsJson := by simp [JsonNumber.IsJson]
    simp [j, Json.toSyntax, Json.fieldsToSyntax, Json.int, Syntax.sound_object, Syntax.sound_null,
      Syntax.sound_number whole]
  have read : ofJson? j = some ∅ := by decide +kernel
  have read_text : (Syntax.ofText? text).bind ofSyntax? = some q := by decide +kernel
  exact ⟨finite, read_back_settled.1 p finite, sound, read, read_back_settled.2.1 j sound ∅ read,
    read_text, read_back_settled.2.2 text q read_text⟩

end Parameters

end ContentDelivery
