/-
ContentDelivery.Proofs.Exchange.Encoding — nothing of a payload is lost on the wire.

`DeliveryRequest.encoding_lossless`: payloads that are written alike are
alike, in every mbox, notification, parameter and absent part.

`Lossless f x` says it of a single value: no other one is written as `x`
is. It goes through lists, through values that may be absent and through
those that are left out when they are empty, and it is shown of each
record from its fields. An object is compared name by name
(`Json.Fields.get?_ofList_append`), which takes apart what stands under
different names only. That is where the parameters matter, whose fields
stand among those of the item they belong to: no name is in both
(`Parameters.field?_own`, `Parameters.field?_beside`).

The one value that is written as others are is an order's total that is
infinite or not a number: all of these become null. So the totals of the
one payload must be finite, and nothing is asked of the other.
-/
import ContentDelivery.Exchange.Payload
import ContentDelivery.Proofs.Json.Fields
import Mathlib.Logic.Function.Basic

namespace ContentDelivery

/-- Nothing of `x` is lost in its image: no other value has the same. -/
def Lossless (f : α → β) (x : α) : Prop := ∀ ⦃y : α⦄, f y = f x → y = x

namespace Lossless

variable {f : α → β} {x : α}

theorem of_injective (injective : Function.Injective f) (x : α) : Lossless f x :=
  fun _ same => injective same

/-- What can be read back was not lost. -/
theorem of_readBack {read : β → Option α} (read_back : ∀ x, read (f x) = some x) (x : α) :
    Lossless f x := by
  intro y same
  have read_alike := congrArg read same
  rw [read_back, read_back] at read_alike
  exact Option.some.inj read_alike

theorem comp {g : β → γ} (outer : Lossless g (f x)) (inner : Lossless f x) :
    Lossless (fun y => g (f y)) x := fun _ same => inner (outer same)

theorem list {xs : List α} (each : ∀ x ∈ xs, Lossless f x) : Lossless (List.map f) xs := by
  induction xs with
  | nil =>
    intro ys same
    exact List.map_eq_nil_iff.mp same
  | cons x xs ih =>
    intro ys same
    cases ys with
    | nil => cases same
    | cons y ys =>
      obtain ⟨head, tail⟩ := List.cons.inj same
      rw [each x List.mem_cons_self head, ih (fun x among => each x (.tail _ among)) tail]

theorem option {x : Option α} (each : ∀ a ∈ x, Lossless f a) : Lossless (Option.map f) x := by
  intro y same
  cases x with
  | none => exact Option.map_eq_none_iff.mp same
  | some a =>
    obtain ⟨b, rfl, image⟩ := Option.map_eq_some_iff.mp same
    rw [each a rfl image]

/-- A value that is left out when it is the empty one is not lost. -/
theorem unlessEmpty {empty : α} [DecidablePred (· = empty)] (present : Lossless f x) :
    Lossless (fun y => if y = empty then none else some (f y)) x := by
  intro y same
  by_cases empty_x : x = empty <;> by_cases empty_y : y = empty <;>
    simp only [empty_x, empty_y, if_true, if_false, reduceCtorEq, Option.some.injEq] at same
  · exact empty_y.trans empty_x.symm
  · exact present same

end Lossless

/-! ## Leaves -/

namespace Json

theorem lossless_string (s : String) : Lossless Json.string s := fun _ => Json.string.inj

theorem lossless_int (n : Int) : Lossless int n := fun _ same => by simpa [int] using same

theorem lossless_nat (n : Nat) : Lossless (fun n : Nat => int n) n :=
  .comp (lossless_int n) (.of_injective (fun _ _ => Int.ofNat_inj.mp) n)

/-- Numbers that are not finite are all written as null. -/
theorem lossless_float {x : Binary64} (finite : x.isFinite = true) : Lossless float x := by
  intro y same
  cases finite_y : y.isFinite with
  | false => simp [float, finite, finite_y] at same
  | true => simpa [float, finite, finite_y] using same

/-- An infinite total and one that is not a number have the same image. -/
example : float ⟨0x7ff0000000000000⟩ = float ⟨0x7ff8000000000000⟩ := rfl

theorem lossless_array (items : List Json) : Lossless Json.array items := fun _ => Json.array.inj

theorem lossless_arrayOf {f : α → Json} {xs : List α} (each : ∀ x ∈ xs, Lossless f x) :
    Lossless (fun xs => Json.array (xs.map f)) xs :=
  .comp (lossless_array (xs.map f)) (.list each)

theorem lossless_strings (items : List String) : Lossless strings items :=
  lossless_arrayOf fun s _ => lossless_string s

theorem lossless_text (text : Option String) : Lossless (Option.map Json.string) text :=
  .option fun s _ => lossless_string s

end Json

/-- A map lists its entries in the order of their keys, so it is known from the list. -/
theorem StringMap.lossless_toJson (m : StringMap) : Lossless toJson m := by
  intro n same
  have entry_injective : Function.Injective fun entry : String × String =>
      (entry.1, Json.string entry.2) := by
    rintro ⟨key, value⟩ ⟨key', value'⟩ same
    obtain ⟨key_eq, value_eq⟩ := Prod.mk.inj same
    exact Prod.ext key_eq (Json.string.inj value_eq)
  have listed := Lossless.list (fun entry _ => .of_injective entry_injective entry)
    (Json.object.inj same)
  exact Std.ExtTreeMap.toList_inj.mp listed

/-! ## Records -/

attribute [local simp] Json.field?_ofFields Json.Fields.get?_ofList_append
  Json.Fields.get?_ofList_cons Json.Fields.get?_ofList_nil Json.Fields.get?_ofList_optionalField
  Json.Fields.get?_ofList_unless Json.optionalText

attribute [local ext] OrderDetails ProductDetails Parameters MboxItem Notification VisitorId
  VisitorIds AudienceData Device DeliveryRequest

theorem OrderDetails.lossless_toJson {o : OrderDetails} (finite : o.total.isFinite = true) :
    Lossless toJson o := by
  intro other same
  have under (name : String) := congrArg (Json.field? name) same
  have id := under "id"
  have total := under "total"
  have purchasedProductIds := under "purchasedProductIds"
  simp [toJson] at id total purchasedProductIds
  exact OrderDetails.ext id (Json.lossless_float finite total)
    (Lossless.unlessEmpty (Json.lossless_strings _) purchasedProductIds)

theorem ProductDetails.lossless_toJson (p : ProductDetails) : Lossless toJson p := by
  intro other same
  have under (name : String) := congrArg (Json.field? name) same
  have id := under "id"
  have categoryId := under "categoryId"
  simp [toJson] at id categoryId
  exact ProductDetails.ext id categoryId

theorem VisitorIds.lossless_customerIdJson (v : VisitorId) : Lossless customerIdJson v := by
  intro other same
  have under (name : String) := congrArg (Json.field? name) same
  have id := under "id"
  have idType := under "integrationCode"
  have state := under "authenticatedState"
  simp [customerIdJson] at id idType state
  exact VisitorId.ext id idType (Lossless.of_readBack AuthenticatedState.ofName?_name _ state)

theorem VisitorIds.lossless_toJson (ids : VisitorIds) : Lossless toJson ids := by
  intro other same
  have under (name : String) := congrArg (Json.field? name) same
  have tntId := under "tntId"
  have thirdPartyId := under "thirdPartyId"
  have marketingCloudId := under "marketingCloudVisitorId"
  have customerIds := under "customerIds"
  simp [toJson] at tntId thirdPartyId marketingCloudId customerIds
  have listed : Lossless (fun ids => Json.array (ids.map customerIdJson)) ids.customerIds :=
    Json.lossless_arrayOf fun v _ => lossless_customerIdJson v
  exact VisitorIds.ext (Json.lossless_text _ tntId) (Json.lossless_text _ thirdPartyId)
    (Json.lossless_text _ marketingCloudId) (listed.unlessEmpty customerIds)

theorem AudienceData.lossless_toJson (a : AudienceData) : Lossless toJson a := by
  intro other same
  have under (name : String) := congrArg (Json.field? name) same
  have blob := under "blob"
  have locationHint := under "locationHint"
  simp [toJson] at blob locationHint
  exact AudienceData.ext (Json.lossless_text _ blob) (Json.lossless_text _ locationHint)

/-! ## Parameters beside other fields -/

namespace Parameters

/-- An order, if there is one, has a total that is neither infinite nor not-a-number. -/
def FiniteTotal (p : Parameters) : Prop := ∀ order ∈ p.order, order.total.isFinite = true

/-- Parameters have no fields but their own four, each at most once. -/
theorem names_fields (p : Parameters) : (p.fields.map Prod.fst).Sublist fieldNames := by
  simp only [fields, List.map_append]
  exact (((Json.Fields.names_unless _ _ _).append (Json.Fields.names_unless _ _ _)).append
    (Json.Fields.names_optionalField _ _)).append (Json.Fields.names_optionalField _ _)

/-- Parameters are known from what stands under their four names. -/
theorem eq_of_fields {p q : Parameters} (finite : p.FiniteTotal)
    (under : ∀ name ∈ fieldNames, q.toJson.field? name = p.toJson.field? name) : q = p := by
  have parameters := under "parameters" (by decide)
  have profileParameters := under "profileParameters" (by decide)
  have order := under "order" (by decide)
  have product := under "product" (by decide)
  simp [toJson, fields] at parameters profileParameters order product
  exact Parameters.ext
    (Lossless.unlessEmpty (StringMap.lossless_toJson _) parameters)
    (Lossless.unlessEmpty (StringMap.lossless_toJson _) profileParameters)
    (Lossless.option (fun o among => OrderDetails.lossless_toJson (finite o among)) order)
    (Lossless.option (fun product _ => product.lossless_toJson) product)

variable {own : List (String × Json)} {name : String}

/-- The fields of parameters hide no others. -/
theorem field?_own (p : Parameters) (other : name ∉ fieldNames) :
    (Json.ofFields (own ++ p.fields)).field? name = (Json.ofFields own).field? name := by
  have absent : (Json.Fields.ofList p.fields).get? name = none :=
    Json.Fields.get?_ofList_of_not_mem fun among => other ((p.names_fields).subset among)
  simp [absent]

/-- And no others hide them. -/
theorem field?_beside (p : Parameters) (absent : name ∉ own.map Prod.fst) :
    (Json.ofFields (own ++ p.fields)).field? name = p.toJson.field? name := by
  simp [toJson, Json.Fields.get?_ofList_of_not_mem absent]

/-- Fields with names of their own. -/
def Apart (own : List (String × Json)) : Prop := ∀ name ∈ fieldNames, name ∉ own.map Prod.fst

/-- Parameters can be told from the fields that they stand beside. -/
theorem parts_of_beside {own' : List (String × Json)} {p q : Parameters} (finite : p.FiniteTotal)
    (apart : Apart own) (apart' : Apart own')
    (same : Json.ofFields (own' ++ q.fields) = Json.ofFields (own ++ p.fields)) :
    q = p ∧ ∀ name, name ∉ fieldNames →
      (Json.ofFields own').field? name = (Json.ofFields own).field? name := by
  refine ⟨eq_of_fields finite fun name known => ?_, fun name other => ?_⟩
  · rw [← q.field?_beside (apart' name known), same, p.field?_beside (apart name known)]
  · rw [← q.field?_own other, same, p.field?_own other]

theorem nodup_beside (p : Parameters) (distinct : (own.map Prod.fst).Nodup) (apart : Apart own) :
    ((own ++ p.fields).map Prod.fst).Nodup := by
  have known_distinct : fieldNames.Nodup := by decide
  rw [List.map_append, List.nodup_append]
  refine ⟨distinct, known_distinct.sublist p.names_fields, ?_⟩
  rintro name among _ beside rfl
  exact apart name (p.names_fields.subset beside) among

end Parameters

theorem MboxItem.apart (m : MboxItem) : Parameters.Apart m.fields := by
  have names : m.fields.map Prod.fst = ["index", "name"] := rfl
  rw [Parameters.Apart, names]
  decide

theorem MboxItem.lossless_toJson {m : MboxItem} (finite : m.parameters.FiniteTotal) :
    Lossless toJson m := by
  intro other same
  obtain ⟨parameters, under⟩ := Parameters.parts_of_beside finite m.apart other.apart same
  have index := under "index" (by decide)
  have name := under "name" (by decide)
  simp [fields] at index name
  exact MboxItem.ext (Json.lossless_nat _ index) name parameters

theorem Notification.apart (n : Notification) : Parameters.Apart n.fields := by
  have names : n.fields.map Prod.fst = ["id", "timestamp", "type", "mbox", "tokens"] := rfl
  rw [Parameters.Apart, names]
  decide

theorem NotificationKind.name_injective : Function.Injective name := by
  intro k l same
  cases k <;> cases l <;> simp_all [name]

theorem Notification.lossless_toJson {n : Notification} (finite : n.parameters.FiniteTotal) :
    Lossless toJson n := by
  intro other same
  obtain ⟨parameters, under⟩ := Parameters.parts_of_beside finite n.apart other.apart same
  have id := under "id" (by decide)
  have timestamp := under "timestamp" (by decide)
  have kind := under "type" (by decide)
  have mbox := under "mbox" (by decide)
  have tokens := under "tokens" (by decide)
  simp [fields] at id timestamp kind mbox tokens
  have mboxName := congrArg (Json.field? "name") mbox
  have mboxState := congrArg (Json.field? "state") mbox
  simp at mboxName mboxState
  exact Notification.ext id (Int64.toInt_inj.mp (Json.lossless_int _ timestamp))
    (NotificationKind.name_injective kind) mboxName (Json.lossless_text _ mboxState)
    (Json.lossless_strings _ tokens) parameters

/-! ## Payloads -/

namespace DeliveryRequest

variable {r s : DeliveryRequest}

theorem screen_of_json (same : s.screenJson = r.screenJson) :
    s.colorDepth = r.colorDepth ∧ s.device.screenWidth = r.device.screenWidth ∧
      s.device.screenHeight = r.device.screenHeight ∧
      s.device.orientation = r.device.orientation := by
  have under (name : String) := congrArg (Json.field? name) same
  have colorDepth := under "colorDepth"
  have width := under "width"
  have height := under "height"
  have orientation := under "orientation"
  simp [screenJson] at colorDepth width height orientation
  exact ⟨UInt32.toNat_inj.mp (Json.lossless_nat _ colorDepth),
    UInt32.toNat_inj.mp (Json.lossless_nat _ width),
    UInt32.toNat_inj.mp (Json.lossless_nat _ height),
    Lossless.of_readBack Orientation.ofName?_name _ orientation⟩

theorem platform_of_json {d e : Device} (same : platformJson e = platformJson d) :
    e.deviceName = d.deviceName ∧ e.deviceType = d.deviceType ∧
      e.platformType = d.platformType := by
  have under (name : String) := congrArg (Json.field? name) same
  have deviceName := under "deviceName"
  have deviceType := under "deviceType"
  have platformType := under "platformType"
  simp [platformJson] at deviceName deviceType platformType
  exact ⟨Json.lossless_text _ deviceName, Lossless.of_readBack DeviceType.ofName?_name _ deviceType,
    Lossless.of_readBack PlatformType.ofName?_name _ platformType⟩

theorem application_of_json {d e : Device} (same : applicationJson e = applicationJson d) :
    e.appId = d.appId ∧ e.appName = d.appName ∧ e.appVersion = d.appVersion := by
  have under (name : String) := congrArg (Json.field? name) same
  have appId := under "id"
  have appName := under "name"
  have appVersion := under "version"
  simp [applicationJson] at appId appName appVersion
  exact ⟨Json.lossless_text _ appId, Json.lossless_text _ appName, Json.lossless_text _ appVersion⟩

theorem context_of_json (same : s.contextJson = r.contextJson) :
    s.device = r.device ∧ s.colorDepth = r.colorDepth ∧ s.timeOffset = r.timeOffset := by
  have under (name : String) := congrArg (Json.field? name) same
  have platform := under "mobilePlatform"
  have application := under "application"
  have screen := under "screen"
  have timeOffset := under "timeOffsetInMinutes"
  have userAgent := under "userAgent"
  simp [contextJson] at platform application screen timeOffset userAgent
  obtain ⟨deviceName, deviceType, platformType⟩ := platform_of_json platform
  obtain ⟨appId, appName, appVersion⟩ := application_of_json application
  obtain ⟨colorDepth, screenWidth, screenHeight, orientation⟩ := screen_of_json screen
  refine ⟨?_, colorDepth, Int32.toInt_inj.mp (Json.lossless_int _ timeOffset)⟩
  exact Device.ext deviceName deviceType platformType orientation screenWidth screenHeight appId
    appName appVersion (Json.lossless_text _ userAgent)

theorem audience_of_json (same : s.experienceCloudJson = r.experienceCloudJson) :
    s.audience = r.audience := by
  have audience := congrArg (Json.field? "audienceManager") same
  simp [experienceCloudJson] at audience
  exact Lossless.option (fun data _ => data.lossless_toJson) audience

theorem lossless_mboxesJson {items : List MboxItem}
    (finite : ∀ item ∈ items, item.parameters.FiniteTotal) : Lossless mboxesJson items := by
  intro other same
  have listed := congrArg (Json.field? "mboxes") same
  simp [mboxesJson] at listed
  exact Lossless.list (fun item among => MboxItem.lossless_toJson (finite item among)) listed

theorem lossless_propertyJson (token : String) :
    Lossless (fun token => Json.ofFields [("token", .string token)]) token := by
  intro other same
  have token := congrArg (Json.field? "token") same
  simpa using token

/-- All totals of orders in a payload are finite. -/
structure HasFiniteTotals (r : DeliveryRequest) : Prop where
  prefetch : ∀ items ∈ r.prefetch, ∀ item ∈ items, item.parameters.FiniteTotal
  execute : ∀ items ∈ r.execute, ∀ item ∈ items, item.parameters.FiniteTotal
  notifications : ∀ n ∈ r.notifications, n.parameters.FiniteTotal

theorem lossless_toJson (finite : r.HasFiniteTotals) : Lossless toJson r := by
  intro s same
  have under (name : String) := congrArg (Json.field? name) same
  have ids := under "id"
  have context := under "context"
  have experienceCloud := under "experienceCloud"
  have prefetch := under "prefetch"
  have execute := under "execute"
  have notifications := under "notifications"
  have environmentId := under "environmentId"
  have property := under "property"
  simp [toJson] at ids context experienceCloud prefetch execute notifications environmentId property
  obtain ⟨device, colorDepth, timeOffset⟩ := context_of_json context
  have reported : Lossless (fun ns => Json.array (ns.map Notification.toJson)) r.notifications :=
    Json.lossless_arrayOf fun n among => Notification.lossless_toJson (finite.notifications n among)
  exact DeliveryRequest.ext (VisitorIds.lossless_toJson _ ids) device colorDepth timeOffset
    (audience_of_json experienceCloud)
    (Lossless.option (fun items asked => lossless_mboxesJson (finite.prefetch items asked))
      prefetch)
    (Lossless.option (fun items asked => lossless_mboxesJson (finite.execute items asked)) execute)
    (reported.unlessEmpty notifications)
    (Int64.toInt_inj.mp (Json.lossless_int _ environmentId))
    (Lossless.option (fun token _ => lossless_propertyJson token) property)

/-- **Payloads that are written alike are alike**, in every part: as long as the totals in one of
them are finite, no other payload has its JSON, where absent parts are left out, and empty lists and
maps with them. No field hides another, also where the parameters of an mbox or of a notification
stand among its own fields. -/
theorem encoding_lossless :
    (∀ r s : DeliveryRequest, r.HasFiniteTotals → s.toJson = r.toJson → s = r) ∧
    (∀ m : MboxItem, ((m.fields ++ m.parameters.fields).map Prod.fst).Nodup) ∧
    (∀ n : Notification, ((n.fields ++ n.parameters.fields).map Prod.fst).Nodup) := by
  refine ⟨?_, ?_, ?_⟩
  · intro r s finite same
    exact lossless_toJson finite same
  · intro m
    have own_distinct : (m.fields.map Prod.fst).Nodup := by simp [MboxItem.fields]
    exact m.parameters.nodup_beside own_distinct m.apart
  · intro n
    have own_distinct : (n.fields.map Prod.fst).Nodup := by simp [Notification.fields]
    exact n.parameters.nodup_beside own_distinct n.apart

/-- Audience data that say nothing are told from absent ones, beside an order of an mbox. -/
theorem encoding_lossless_of_silent_audience :
    let order : OrderDetails := { id := "order", total := .ofNat 10, purchasedProductIds := [] }
    let item : MboxItem := { index := 0, name := "box", parameters := { order := some order } }
    let r : DeliveryRequest :=
      { ids :=
          { tntId := none, thirdPartyId := none, marketingCloudId := none, customerIds := [] }
        device := {}, colorDepth := 32, timeOffset := 60, audience := none
        prefetch := some [item], execute := none, notifications := [], environmentId := 0
        property := none }
    r.HasFiniteTotals ∧
      { r with audience := some { blob := none, locationHint := none } }.toJson ≠ r.toJson := by
  intro order item r
  have finite : r.HasFiniteTotals := by
    refine ⟨?_, by simp [r], by simp [r]⟩
    rintro items ⟨⟩ _ among o ordered
    obtain rfl := List.mem_singleton.mp among
    obtain rfl := Option.some.inj ordered
    decide +kernel
  refine ⟨finite, fun same => ?_⟩
  cases congrArg audience (encoding_lossless.1 r _ finite same)

end DeliveryRequest

end ContentDelivery
