/-
ContentDelivery.Proofs.Parameters.Precedence — which layer of the parameters decides.

`Parameters.decided_by_last_layer`: in each of the two maps a key has the
value of the last layer that has the key, and the order and the product
are those of the last layer that has one, as a whole.

The same is said without keys. Layers are put over one another by
`Parameters.overlay`, which may be bracketed either way, has the empty
layer as its unit on both sides and puts a layer over itself without
effect; all of it comes from the maps (`StringMap.getElem?_overlay`) and
from `Option.or`. So the merge of three layers can be made in two steps,
the first two layers first or the last two first.
-/
import ContentDelivery.Parameters.Basic
import ContentDelivery.Proofs.StringMap

namespace ContentDelivery.Parameters

/-! ## Layers over layers -/

theorem empty_overlay (p : Parameters) : overlay ∅ p = p := by
  have same : overlay ∅ p =
      { parameters := StringMap.overlay ∅ p.parameters
        profileParameters := StringMap.overlay ∅ p.profileParameters
        order := p.order.or none
        product := p.product.or none } := rfl
  rw [same, StringMap.empty_overlay, StringMap.empty_overlay, Option.or_none, Option.or_none]

theorem overlay_assoc (bottom middle top : Parameters) :
    (bottom.overlay middle).overlay top = bottom.overlay (middle.overlay top) := by
  simp only [overlay, StringMap.overlay_assoc, Option.or_assoc]

theorem overlay_self (p : Parameters) : p.overlay p = p := by
  simp only [overlay, StringMap.overlay_self, Option.or_self]

/-! ## What decides -/

/-- The value under a key of the parameters of an mbox, in a layer that may be absent. -/
def parameter? (key : String) (layer : Option Parameters) : Option String :=
  layer.bind fun p => p.parameters[key]?

def profileParameter? (key : String) (layer : Option Parameters) : Option String :=
  layer.bind fun p => p.profileParameters[key]?

/-- Parameters that three layers come to, told part by part: the layer of the call decides if it has
something to say, else that of the mbox, and for the parameters of an mbox else the context. -/
structure DecidedBy (context : Option StringMap) (ofMbox ofCall : Option Parameters)
    (p : Parameters) : Prop where
  parameters : ∀ key : String, p.parameters[key]? =
    ((parameter? key ofCall).or (parameter? key ofMbox)).or (context.bind fun data => data[key]?)
  profileParameters : ∀ key : String, p.profileParameters[key]? =
    (profileParameter? key ofCall).or (profileParameter? key ofMbox)
  order : p.order = (ofCall.bind Parameters.order).or (ofMbox.bind Parameters.order)
  product : p.product = (ofCall.bind Parameters.product).or (ofMbox.bind Parameters.product)

variable {context : Option StringMap} {ofMbox ofCall : Option Parameters}

/-- An absent layer says as much as an empty one. -/
theorem getElem?_parameters_getD (layer : Option Parameters) (key : String) :
    (layer.getD ∅).parameters[key]? = parameter? key layer := by
  cases layer with
  | none => exact Std.ExtTreeMap.getElem?_empty
  | some p => rfl

theorem getElem?_profileParameters_getD (layer : Option Parameters) (key : String) :
    (layer.getD ∅).profileParameters[key]? = profileParameter? key layer := by
  cases layer with
  | none => exact Std.ExtTreeMap.getElem?_empty
  | some p => rfl

theorem getElem?_context_getD (context : Option StringMap) (key : String) :
    (context.getD ∅)[key]? = context.bind fun data => data[key]? := by
  cases context with
  | none => exact Std.ExtTreeMap.getElem?_empty
  | some data => rfl

theorem order_getD (layer : Option Parameters) :
    (layer.getD ∅).order = layer.bind Parameters.order := by
  cases layer <;> rfl

theorem product_getD (layer : Option Parameters) :
    (layer.getD ∅).product = layer.bind Parameters.product := by
  cases layer <;> rfl

theorem decidedBy_merge (context : Option StringMap) (ofMbox ofCall : Option Parameters) :
    DecidedBy context ofMbox ofCall (merge context ofMbox ofCall) where
  parameters key := by
    simp only [merge, overlay, ofContext, StringMap.getElem?_overlay, getElem?_parameters_getD,
      getElem?_context_getD, Option.or_assoc]
  profileParameters key := by
    simp only [merge, overlay, ofContext, StringMap.getElem?_overlay,
      getElem?_profileParameters_getD, Std.ExtTreeMap.getElem?_empty, Option.or_none]
  order := by simp only [merge, overlay, ofContext, order_getD, Option.or_none]
  product := by simp only [merge, overlay, ofContext, product_getD, Option.or_none]

/-- Nothing else in parameters is left open. -/
theorem DecidedBy.unique {p q : Parameters} (one : DecidedBy context ofMbox ofCall p)
    (other : DecidedBy context ofMbox ofCall q) : p = q := by
  have parameters : p.parameters = q.parameters := Std.ExtTreeMap.ext_getElem? fun key =>
    (one.parameters key).trans (other.parameters key).symm
  have profileParameters : p.profileParameters = q.profileParameters :=
    Std.ExtTreeMap.ext_getElem? fun key =>
      (one.profileParameters key).trans (other.profileParameters key).symm
  have order := one.order.trans other.order.symm
  have product := one.product.trans other.product.symm
  cases p
  cases q
  congr

/-! ## Merging in steps -/

theorem merge_of_context (context : Option StringMap) :
    merge context none none = ofContext (context.getD ∅) := by
  have same : merge context none none =
      ((ofContext (context.getD ∅)).overlay ∅).overlay ∅ := rfl
  rw [same, overlay_empty, overlay_empty]

theorem merge_without_context (ofMbox ofCall : Option Parameters) :
    merge none ofMbox ofCall = (ofMbox.getD ∅).overlay (ofCall.getD ∅) := by
  have same : merge none ofMbox ofCall =
      (overlay ∅ (ofMbox.getD ∅)).overlay (ofCall.getD ∅) := rfl
  rw [same, empty_overlay]

theorem merge_of_mbox (ofMbox : Option Parameters) : merge none ofMbox none = ofMbox.getD ∅ := by
  rw [merge_without_context]
  exact overlay_empty _

theorem merge_of_call (ofCall : Option Parameters) : merge none none ofCall = ofCall.getD ∅ := by
  rw [merge_without_context]
  exact empty_overlay _

theorem merge_without_call (context : Option StringMap) (ofMbox : Option Parameters) :
    merge context ofMbox none = (ofContext (context.getD ∅)).overlay (ofMbox.getD ∅) := by
  have same : merge context ofMbox none =
      ((ofContext (context.getD ∅)).overlay (ofMbox.getD ∅)).overlay ∅ := rfl
  rw [same, overlay_empty]

theorem merge_context_first (context : Option StringMap) (ofMbox ofCall : Option Parameters) :
    merge none (some (merge context ofMbox none)) ofCall = merge context ofMbox ofCall := by
  rw [merge_without_context, merge_without_call]
  rfl

theorem merge_call_first (context : Option StringMap) (ofMbox ofCall : Option Parameters) :
    merge context (some (merge none ofMbox ofCall)) none = merge context ofMbox ofCall := by
  rw [merge_without_call, merge_without_context, Option.getD_some, ← overlay_assoc]
  rfl

/-- **The last layer that has something to say decides.** The parameters that three layers are
merged to are those that `DecidedBy` describes, key by key, and no others. So layers may be merged
in two steps, those of the context and of the mbox first, or those of the mbox and of the call
first; an absent layer is neutral, whichever it is; and a layer that is merged with itself stays as
it is. -/
theorem decided_by_last_layer (context : Option StringMap) (ofMbox ofCall : Option Parameters) :
    (∀ p, merge context ofMbox ofCall = p ↔ DecidedBy context ofMbox ofCall p) ∧
    (merge none (some (merge context ofMbox none)) ofCall = merge context ofMbox ofCall ∧
      merge context (some (merge none ofMbox ofCall)) none = merge context ofMbox ofCall) ∧
    (merge context none none = ofContext (context.getD ∅) ∧
      merge none ofMbox none = ofMbox.getD ∅ ∧
      merge none none ofCall = ofCall.getD ∅) ∧
    (merge context (context.map ofContext) none = merge context none none ∧
      merge none ofMbox ofMbox = merge none ofMbox none) := by
  refine ⟨fun p => ?_, ⟨?_, ?_⟩, ⟨?_, ?_, ?_⟩, ?_, ?_⟩
  · constructor
    · rintro rfl
      exact decidedBy_merge context ofMbox ofCall
    · exact (decidedBy_merge context ofMbox ofCall).unique
  · exact merge_context_first context ofMbox ofCall
  · exact merge_call_first context ofMbox ofCall
  · exact merge_of_context context
  · exact merge_of_mbox ofMbox
  · exact merge_of_call ofCall
  · rw [merge_of_context, merge_without_call]
    cases context with
    | none => exact empty_overlay ∅
    | some data => exact overlay_self (ofContext data)
  · rw [merge_without_context, merge_of_mbox, overlay_self]

end ContentDelivery.Parameters
