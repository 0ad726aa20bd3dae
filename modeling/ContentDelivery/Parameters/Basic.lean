/-
ContentDelivery.Parameters.Basic — request parameters and their precedence.

Parameters come in three layers: those derived from the device and its
lifecycle (`context`), those of a single mbox, and those of the whole
call. A later layer goes over the earlier ones: key by key in the two
maps, as a whole for the order and for the product.
-/
import ContentDelivery.StringMap

namespace ContentDelivery

structure OrderDetails where
  id : String
  total : Binary64
  purchasedProductIds : List String
deriving DecidableEq

structure ProductDetails where
  id : String
  categoryId : String
deriving DecidableEq

/-- Parameters of an mbox, of a notification or of a whole call. -/
structure Parameters where
  parameters : StringMap := ∅
  profileParameters : StringMap := ∅
  order : Option OrderDetails := none
  product : Option ProductDetails := none
deriving DecidableEq

namespace Parameters

instance : EmptyCollection Parameters := ⟨{}⟩

/-! ## Building -/

def withParameter (key value : String) (p : Parameters) : Parameters :=
  { p with parameters := p.parameters.insert key value }

def withProfileParameter (key value : String) (p : Parameters) : Parameters :=
  { p with profileParameters := p.profileParameters.insert key value }

def withOrder (order : OrderDetails) (p : Parameters) : Parameters :=
  { p with order := some order }

def withProduct (product : ProductDetails) (p : Parameters) : Parameters :=
  { p with product := some product }

/-! ## Precedence -/

/-- One layer over another. -/
def overlay (base top : Parameters) : Parameters where
  parameters := base.parameters.overlay top.parameters
  profileParameters := base.profileParameters.overlay top.profileParameters
  order := top.order.or base.order
  product := top.product.or base.product

@[simp] theorem overlay_empty (base : Parameters) : base.overlay ∅ = base := by
  have same : base.overlay ∅ =
      { parameters := base.parameters.overlay ∅
        profileParameters := base.profileParameters.overlay ∅
        order := base.order
        product := base.product } := rfl
  simp [same]

/-- The layer of the derived context, which has nothing but parameters. -/
def ofContext (context : StringMap) : Parameters := { parameters := context }

/-- The three layers in their order; an absent layer is an empty one. -/
def merge (context : Option StringMap) (ofMbox ofCall : Option Parameters) : Parameters :=
  ((ofContext (context.getD ∅)).overlay (ofMbox.getD ∅)).overlay (ofCall.getD ∅)

end Parameters

end ContentDelivery
