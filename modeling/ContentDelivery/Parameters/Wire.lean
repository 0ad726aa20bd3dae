/-
ContentDelivery.Parameters.Wire — parameters as JSON.

What is empty or absent is left out when parameters are written, and may
be left out or, for the order and the product, be `null` when they are
read. Names of fields are those of `Parameters.fieldNames`; other fields
are passed over.
-/
import ContentDelivery.Parameters.Basic

namespace ContentDelivery

open Json (Syntax)

namespace OrderDetails

def fieldNames : List String := ["id", "total", "purchasedProductIds"]

def toJson (o : OrderDetails) : Json :=
  .ofFields <|
    [("id", .string o.id), ("total", .float o.total)] ++
      (if o.purchasedProductIds.isEmpty then []
       else [("purchasedProductIds", .strings o.purchasedProductIds)])

def ofSyntax? (s : Syntax) : Option OrderDetails := do
  let r ← s.readRecord? fieldNames
  return {
    id := ← r.required? "id" Syntax.readText?
    total := ← r.required? "total" Syntax.readBinary64?
    purchasedProductIds := ←
      r.optional? "purchasedProductIds" (Syntax.readList? Syntax.readText?) []
  }

end OrderDetails

namespace ProductDetails

def fieldNames : List String := ["id", "categoryId"]

def toJson (p : ProductDetails) : Json :=
  .ofFields [("id", .string p.id), ("categoryId", .string p.categoryId)]

def ofSyntax? (s : Syntax) : Option ProductDetails := do
  let r ← s.readRecord? fieldNames
  return {
    id := ← r.required? "id" Syntax.readText?
    categoryId := ← r.required? "categoryId" Syntax.readText?
  }

end ProductDetails

namespace Parameters

def fieldNames : List String := ["parameters", "profileParameters", "order", "product"]

/-- The fields that parameters add to the object they belong to. -/
def fields (p : Parameters) : List (String × Json) :=
  (if p.parameters.isEmpty then [] else [("parameters", p.parameters.toJson)]) ++
  (if p.profileParameters.isEmpty then []
   else [("profileParameters", p.profileParameters.toJson)]) ++
  Json.optionalField "order" (p.order.map OrderDetails.toJson) ++
  Json.optionalField "product" (p.product.map ProductDetails.toJson)

def toJson (p : Parameters) : Json := .ofFields p.fields

def ofSyntax? (s : Syntax) : Option Parameters := do
  let r ← s.readRecord? fieldNames
  return {
    parameters := ← r.optional? "parameters" StringMap.ofSyntax? ∅
    profileParameters := ← r.optional? "profileParameters" StringMap.ofSyntax? ∅
    order := ← r.nullable? "order" OrderDetails.ofSyntax?
    product := ← r.nullable? "product" ProductDetails.ofSyntax?
  }

def ofJson? (j : Json) : Option Parameters := ofSyntax? j.toSyntax

end Parameters

end ContentDelivery
