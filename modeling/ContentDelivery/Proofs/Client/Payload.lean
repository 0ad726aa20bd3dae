/-
ContentDelivery.Proofs.Client.Payload — what a request carries.

`payload_as_supplied`: whatever a client is asked and whatever it holds,
the request that it sends says what was supplied. A call that asks for
mboxes has them in its payload, in their order and numbered from zero
(`HostFacts.AsksFor`), unless there are none; all pending reports come
along; and each of the other parts is there exactly if there is something
to say.

The payload is assembled after the session was read and the pending
reports were taken out, so `Sent` names what it is assembled from: the
identity before the operation, and the pending reports with those of the
call. `Conveys` is what comes of it, part by part. On the wire an absent
part is left out (`shownOn_toJson`), so that the same conditions say
which fields a service sees.
-/
import ContentDelivery.Proofs.Client.Operations
import ContentDelivery.Proofs.Json.Fields

namespace ContentDelivery

/-! ## Mboxes -/

namespace HostFacts

/-- Items that ask for mboxes: in their order, numbered from zero, each with the name that was
submitted, and with its own parameters over those of the lifecycle and under those of the call. -/
structure AsksFor (facts : HostFacts) (ofCall : Option Parameters) (mboxes : List MboxRequest)
    (items : List MboxItem) : Prop where
  length : items.length = mboxes.length
  item : ∀ {i : Nat} {item : MboxItem} {mbox : MboxRequest},
    items[i]? = some item → mboxes[i]? = some mbox →
      item.index = i ∧ item.name = mbox.name ∧
        item.parameters = Parameters.merge (some facts.contextData) mbox.parameters ofCall

variable {facts : HostFacts} {ofCall : Option Parameters} {mboxes : List MboxRequest}
  {items : List MboxItem}

theorem asksFor_mboxItems (facts : HostFacts) (ofCall : Option Parameters)
    (mboxes : List MboxRequest) : facts.AsksFor ofCall mboxes (facts.mboxItems ofCall mboxes) where
  length := List.length_mapIdx
  item := by
    intro i item mbox at_items at_mboxes
    rw [mboxItems, List.getElem?_mapIdx, at_mboxes, Option.map_some] at at_items
    obtain rfl := Option.some.inj at_items
    exact ⟨rfl, rfl, rfl⟩

/-- Nothing about the items is left open. -/
theorem asksFor_iff :
    facts.AsksFor ofCall mboxes items ↔ items = facts.mboxItems ofCall mboxes := by
  constructor
  · intro asks
    have made := asksFor_mboxItems facts ofCall mboxes
    refine List.ext_getElem (asks.length.trans made.length.symm) fun i in_items in_made => ?_
    have in_mboxes : i < mboxes.length := asks.length ▸ in_items
    have at_mboxes := List.getElem?_eq_getElem in_mboxes
    obtain ⟨index, name, parameters⟩ := asks.item (List.getElem?_eq_getElem in_items) at_mboxes
    obtain ⟨index', name', parameters'⟩ := made.item (List.getElem?_eq_getElem in_made) at_mboxes
    rw [MboxItem.mk.injEq]
    exact ⟨index.trans index'.symm, name.trans name'.symm, parameters.trans parameters'.symm⟩
  · rintro rfl
    exact asksFor_mboxItems facts ofCall mboxes

end HostFacts

/-! ## Payloads -/

/-- A payload that says what was supplied: by the call, by the configuration in effect, by the host
and by the visitor, with the reports that were to be sent. -/
structure DeliveryRequest.Conveys (here : Surroundings) (call : Call)
    (configuration : Configuration) (visitor : IdentityState) (reports : List Notification)
    (payload : DeliveryRequest) : Prop where
  prefetch : ∀ items, payload.prefetch = some items ↔
    ∃ mboxes ps, call = .prefetch mboxes ps ∧ mboxes ≠ [] ∧ here.facts.AsksFor ps mboxes items
  execute : ∀ items, payload.execute = some items ↔
    ∃ mboxes ps, call = .execute mboxes ps ∧ mboxes ≠ [] ∧ here.facts.AsksFor ps mboxes items
  not_both : payload.prefetch = none ∨ payload.execute = none
  notifications : payload.notifications = reports
  something : payload.prefetch ≠ none ∨ payload.execute ≠ none ∨ payload.notifications ≠ []
  property : ∀ token,
    payload.property = some token ↔ configuration.propertyToken = some token ∧ token ≠ ""
  environmentId : payload.environmentId = configuration.environmentId
  tntId : payload.ids.tntId = visitor.tntId
  thirdPartyId : payload.ids.thirdPartyId = visitor.thirdPartyId
  marketingCloudId : payload.ids.marketingCloudId =
    here.facts.identity.bind Identity.marketingCloudId
  customerIds : payload.ids.customerIds = (here.facts.identity.map Identity.visitorIds).getD []
  audience : ∀ data, payload.audience = some data ↔ ∃ identity,
    here.facts.identity = some identity ∧
      data = { blob := identity.blob, locationHint := identity.locationHint }
  device : payload.device = here.facts.device
  timeOffset : payload.timeOffset = minutes here.utcOffset

namespace DeliveryRequest

variable {here : Surroundings} {call : Call} {configuration : Configuration}
  {visitor : IdentityState} {reports : List Notification} {payload : DeliveryRequest}

theorem conveys_of_assemble
    (assembled : assemble here.facts here.utcOffset configuration visitor call.selection
      call.parameters reports = .ok payload) :
    Conveys here call configuration visitor reports payload := by
  unfold assemble at assembled
  split at assembled
  · cases assembled
  · next not_nothing =>
    obtain rfl := Except.ok.inj assembled
    exact {
      prefetch := by
        intro items
        cases call with
        | prefetch mboxes ps =>
          cases mboxes <;> simp [Call.selection, Call.parameters, HostFacts.asksFor_iff, eq_comm]
        | execute _ _ | displayed _ _ | clicked _ _ => simp [Call.selection]
      execute := by
        intro items
        cases call with
        | execute mboxes ps =>
          cases mboxes <;> simp [Call.selection, Call.parameters, HostFacts.asksFor_iff, eq_comm]
        | prefetch _ _ | displayed _ _ | clicked _ _ => simp [Call.selection]
      not_both := by cases call <;> simp [Call.selection]
      notifications := rfl
      something := by
        cases call with
        | prefetch mboxes _ | execute mboxes _ =>
          cases mboxes with
          | nil => simpa [Call.selection, MboxSelection.isEmpty] using not_nothing
          | cons mbox mboxes => simp [Call.selection]
        | displayed _ _ | clicked _ _ =>
          simpa [Call.selection, MboxSelection.isEmpty] using not_nothing
      property := fun token => nonempty?_eq_some
      environmentId := rfl
      tntId := rfl
      thirdPartyId := rfl
      marketingCloudId := rfl
      customerIds := rfl
      audience := fun data => Option.map_eq_some_iff.trans (by simp [eq_comm])
      device := rfl
      timeOffset := rfl }

end DeliveryRequest

/-- What a service finds of a payload on the wire: an absent part is left out, and so are
notifications and synced ids if there are none. -/
structure DeliveryRequest.ShownOn (wire : Json) (payload : DeliveryRequest) : Prop where
  prefetch : wire.field? "prefetch" = payload.prefetch.map mboxesJson
  execute : wire.field? "execute" = payload.execute.map mboxesJson
  notifications : wire.field? "notifications" =
    if payload.notifications = [] then none
    else some (.array (payload.notifications.map Notification.toJson))
  property : wire.field? "property" =
    payload.property.map fun token => .ofFields [("token", .string token)]
  environmentId : wire.field? "environmentId" = some (.int payload.environmentId.toInt)
  tntId : (wire.field? "id").bind (Json.field? "tntId") = payload.ids.tntId.map .string
  thirdPartyId : (wire.field? "id").bind (Json.field? "thirdPartyId") =
    payload.ids.thirdPartyId.map .string
  customerIds : (wire.field? "id").bind (Json.field? "customerIds") =
    if payload.ids.customerIds = [] then none
    else some (.array (payload.ids.customerIds.map VisitorIds.customerIdJson))
  audience : (wire.field? "experienceCloud").bind (Json.field? "audienceManager") =
    payload.audience.map AudienceData.toJson

namespace DeliveryRequest

theorem shownOn_toJson (payload : DeliveryRequest) : payload.ShownOn payload.toJson := by
  cases none_sent : payload.notifications <;> cases none_synced : payload.ids.customerIds <;>
    constructor <;>
    simp [toJson, experienceCloudJson, VisitorIds.toJson, Json.optionalText, none_sent, none_synced,
      Json.field?_ofFields, Json.Fields.get?_ofList_append, Json.Fields.get?_ofList_cons,
      Json.Fields.get?_ofList_nil, Json.Fields.get?_ofList_optionalField]

end DeliveryRequest

/-! ## Requests -/

namespace Client

/-- **A request carries what was supplied.** Whatever a client holds and is asked, directly or not:
if it sends a request, then for a call, and with a configuration in effect, of which the payload
says all of the following. The mboxes of a prefetch are to prefetch and those of an execute to
execute, unless there are none; never are there both. They come in their order and numbered from
zero, each with its name and with the parameters of the lifecycle, its own and those of the call
laid over each other. All pending reports come along, those of the call last, so that there is
always something to send. There is a property exactly if the configured token is not empty, and
audience data exactly if the host knows an identity; the environment is the configured one, the
visitor's ids are those before the operation, and synced ids come in their order. A part that is
absent does not appear on the wire. The request may take as long as is configured. -/
theorem payload_as_supplied {m : Moment} {c : Client} {request : HttpRequest}
    (asked : (c.act m).request = some request) :
    ∃ call configuration, m.operation = .call call ∧ c.configuration = some configuration ∧
      request.payload.Conveys m.here call configuration c.identifiers
        (c.pending ++ c.reports m.here call) ∧
      request.payload.ShownOn request.payload.toJson ∧
      request.timeout = configuration.networkTimeout := by
  obtain ⟨call, configuration, op, sent⟩ := exists_sent_of_request asked
  have in_effect := (Configuration.forRequests_eq_ok.mp sent.allowed).1
  exact ⟨call, configuration, op, in_effect, DeliveryRequest.conveys_of_assemble sent.payload,
    request.payload.shownOn_toJson, sent.timeout⟩

/-- A click that could not be reported for want of an endpoint goes along with a prefetch, which
asks twice for one mbox and has a parameter of the call over one of an mbox. -/
theorem payload_as_supplied_with_pending :
    let acme : Configuration := { clientCode := "acme", privacy := .optedIn }
    let metric := "\x7b\"type\":\"click\",\"eventToken\":\"token\"\x7d"
    let content := "\x7b\"name\":\"old\",\"metrics\":[" ++ metric ++ "]\x7d"
    let moment (operation : Operation) : Moment :=
      { here :=
          { millis := 5000, utcOffset := 0, freshSessionId := "session"
            freshNotificationId := fun _ => "report", facts := {} }
        answer := .ok
          { status := 200
            body := ("\x7b\"execute\":\x7b\"mboxes\":[" ++ content ++ "]\x7d\x7d").toUTF8 }
        operation, direct := false }
    let r : Run Storage :=
      { store := .memory, contents := ∅, configuration := some acme
        moments :=
          [ moment (.call (.execute [{ name := "old" }] none)),
            moment (.configure { acme with targetServer := some "a b" }),
            moment (.call (.clicked "old" none)),
            moment (.configure acme) ] }
    let page (value : String) : Option Parameters := some (Parameters.withParameter "page" value ∅)
    let call : Call :=
      .prefetch [{ name := "box", parameters := page "1" }, { name := "box" }] (page "2")
    let m := moment (.call call)
    ∃ request items, (r.client.act m).request = some request ∧
      request.payload.prefetch = some items ∧ items.map MboxItem.index = [0, 1] ∧
      items.map MboxItem.name = ["box", "box"] ∧
      items.map (·.parameters.parameters["page"]?) = [some "2", some "2"] ∧
      request.payload.execute = none ∧
      request.payload.notifications = r.client.pending ∧ r.client.pending.length = 1 := by
  intro acme metric content moment r page call m
  have asked : (r.client.act m).request.isSome = true := by decide +kernel
  obtain ⟨request, asked⟩ := Option.isSome_iff_exists.mp asked
  obtain ⟨_, configuration, op, -, conveys, -, -⟩ := payload_as_supplied asked
  obtain rfl := Operation.call.inj op
  have items := (conveys.prefetch _).mpr ⟨_, _, rfl, by simp, HostFacts.asksFor_mboxItems _ _ _⟩
  have none_made : r.client.reports m.here call = [] := by
    unfold reports
    split <;> rfl
  refine ⟨request, _, asked, items, rfl, rfl, by decide +kernel, ?_, ?_, by decide +kernel⟩
  · exact conveys.not_both.resolve_left (by simp [items])
  · exact conveys.notifications.trans (by simp [none_made])

end Client

end ContentDelivery
