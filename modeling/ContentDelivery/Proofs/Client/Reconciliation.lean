/-
ContentDelivery.Proofs.Client.Reconciliation — what a reply changes, case by case.

`Reconciles` relates a reply, and what it comes upon, to what is left
after it. It has a constructor for a body that is no object, two for an
error, which the service reports with a message or by the status alone,
and one for content. In each of them every part of the outcome is said,
so that `reconciles_iff` can say that a reply is related to what
`reconcile` makes of it and to nothing else.

Its parts are what a session takes over from the body of a reply
(`Session.Absorbs`), and what a cache takes in for each kind of call
(`Cache.TakesIn`). Each is determined, and that is why the whole is.
-/
import ContentDelivery.Proofs.Client.Identity
import ContentDelivery.Proofs.Content.Merging

namespace ContentDelivery

/-! ## Texts that are told -/

/-- A text that is told takes the place of the one before; the empty text takes it away. -/
inductive TakesOver (tells : String → Prop) (before : Option String) : Option String → Prop
  | told {text : String} (told : tells text) (says_something : text ≠ "") :
    TakesOver tells before (some text)
  | cleared (told : tells "") : TakesOver tells before none
  | kept (untold : ∀ text, ¬tells text) : TakesOver tells before before

theorem takesOver_iff {tells : String → Prop} {told? before after : Option String}
    (tells_iff : ∀ text, tells text ↔ told? = some text) :
    TakesOver tells before after ↔
      after = if told?.isSome then nonempty? told? else before := by
  constructor
  · intro takes_over
    cases takes_over with
    | told told says_something =>
      simp [(tells_iff _).mp told, nonempty?_eq_some.mpr ⟨rfl, says_something⟩]
    | cleared told => simp [(tells_iff _).mp told, nonempty?_empty]
    | kept untold =>
      have none_told : told? = none := by
        rw [Option.eq_none_iff_forall_ne_some]
        exact fun text told => untold text ((tells_iff text).mpr told)
      simp [none_told]
  · rintro rfl
    cases told_eq : told? with
    | none =>
      refine .kept fun text told => ?_
      cases told_eq.symm.trans ((tells_iff text).mp told)
    | some text =>
      have told := (tells_iff text).mpr told_eq
      by_cases empty : text = ""
      · subst empty
        exact .cleared told
      · have replaced : TakesOver tells before (some text) := .told told empty
        simpa [nonempty?_eq_some.mpr ⟨rfl, empty⟩] using replaced

/-! ## The session -/

/-- The body of a reply tells the visitor's id. -/
def Json.Fields.TellsTntId (body : Json.Fields) (id : String) : Prop :=
  ∃ block : Json.Fields, body.get? "id" = some (.object block) ∧
    block.get? "tntId" = some (.string id)

/-- The body of a reply tells the edge host. -/
def Json.Fields.TellsEdgeHost (body : Json.Fields) (host : String) : Prop :=
  body.get? "edgeHost" = some (.string host)

namespace Session

/-- What the body of a reply changes in a session, and what of that is written: the time always, the
visitor's id if it is told, the edge host if it becomes another one. -/
structure Absorbs (now : Int64) (body : Json.Fields) (s : Session) (change : Change) : Prop where
  startedAt : change.session.startedAt = some now
  tntId : TakesOver body.TellsTntId s.tntId change.session.tntId
  edgeHost : TakesOver body.TellsEdgeHost s.edgeHost change.session.edgeHost
  id : change.session.id = s.id
  thirdPartyId : change.session.thirdPartyId = s.thirdPartyId
  timeout : change.session.timeout = s.timeout
  writes : ∃ ofId ofHost : List StoreEdit,
    change.writes = .setInteger StoreKey.sessionTimestamp now :: (ofId ++ ofHost) ∧
    ((∃ id, body.TellsTntId id) → ofId = [storeText StoreKey.tntId change.session.tntId]) ∧
    ((∀ id, ¬body.TellsTntId id) → ofId = []) ∧
    ofHost =
      if change.session.edgeHost = s.edgeHost then []
      else [storeText StoreKey.edgeHost change.session.edgeHost]

variable {now : Int64} {r : DeliveryReply} {s : Session} {change : Change}

theorem tellsTntId_iff (id : String) : r.body.TellsTntId id ↔ r.tntId? = some id :=
  DeliveryReply.tntId?_eq_some.symm

theorem tellsEdgeHost_iff (host : String) :
    r.body.TellsEdgeHost host ↔ r.edgeHost? = some host := by
  simp [Json.Fields.TellsEdgeHost, DeliveryReply.edgeHost?, Option.bind_eq_some_iff,
    Json.asString?_eq_some]

theorem session_absorb (now : Int64) (r : DeliveryReply) (s : Session) :
    (s.absorb now r).session =
      { s with
        startedAt := some now
        tntId := if r.tntId?.isSome then nonempty? r.tntId? else s.tntId
        edgeHost := if r.edgeHost?.isSome then nonempty? r.edgeHost? else s.edgeHost } := by
  cases told : r.tntId? <;> cases host : r.edgeHost? <;>
    simp [absorb, refresh, setTntId, told, host]

theorem writes_setEdgeHost (host : Option String) (s : Session) :
    (s.setEdgeHost host).writes =
      if nonempty? host = s.edgeHost then []
      else [storeText StoreKey.edgeHost (nonempty? host)] := by
  unfold setEdgeHost
  split <;> rfl

theorem writes_absorb (now : Int64) (r : DeliveryReply) (s : Session) :
    let after := (s.absorb now r).session
    (s.absorb now r).writes =
      .setInteger StoreKey.sessionTimestamp now ::
        ((if r.tntId?.isSome then [storeText StoreKey.tntId after.tntId] else []) ++
          if after.edgeHost = s.edgeHost then []
          else [storeText StoreKey.edgeHost after.edgeHost]) := by
  cases told : r.tntId? <;> cases host : r.edgeHost? <;>
    simp [absorb, refresh, setTntId, writes_setEdgeHost, told, host]

theorem tellsTntId_none_iff : (∀ id, ¬r.body.TellsTntId id) ↔ r.tntId? = none := by
  simp only [tellsTntId_iff, Option.eq_none_iff_forall_ne_some, ne_eq]

theorem absorbs_absorb (now : Int64) (r : DeliveryReply) (s : Session) :
    Absorbs now r.body s (s.absorb now r) := by
  have session := session_absorb now r s
  have writes := writes_absorb now r s
  refine {
    startedAt := by rw [session]
    tntId := (takesOver_iff tellsTntId_iff).mpr (by rw [session])
    edgeHost := (takesOver_iff tellsEdgeHost_iff).mpr (by rw [session])
    id := by rw [session]
    thirdPartyId := by rw [session]
    timeout := by rw [session]
    writes := ⟨_, _, writes, ?_, ?_, rfl⟩ }
  · rintro ⟨id, told⟩
    simp [(tellsTntId_iff id).mp told]
  · intro untold
    simp [tellsTntId_none_iff.mp untold]

/-- What a session absorbs is determined. -/
theorem absorbs_iff : Absorbs now r.body s change ↔ change = s.absorb now r := by
  constructor
  · intro absorbs
    have session : change.session = (s.absorb now r).session := by
      rw [session_absorb, ← (takesOver_iff tellsTntId_iff).mp absorbs.tntId,
        ← (takesOver_iff tellsEdgeHost_iff).mp absorbs.edgeHost, ← absorbs.startedAt,
        ← absorbs.thirdPartyId, ← absorbs.id, ← absorbs.timeout]
    obtain ⟨ofId, ofHost, writes, told, untold, rfl⟩ := absorbs.writes
    have ofId_eq : ofId =
        if r.tntId?.isSome then [storeText StoreKey.tntId change.session.tntId] else [] := by
      cases given : r.tntId? with
      | none => exact untold (tellsTntId_none_iff.mpr given)
      | some id => exact told ⟨id, (tellsTntId_iff id).mpr given⟩
    have writes : change.writes = (s.absorb now r).writes := by
      rw [writes_absorb, ← session, writes, ofId_eq]
    cases change
    cases session
    cases writes
    rfl
  · rintro rfl
    exact absorbs_absorb now r s

end Session

/-! ## The cache -/

namespace Cache

/-- The content that a reply without an error brings to a call, and how it is held. Prefetched
content replaces what was prefetched under its names, and leaves nothing loaded under them. Loaded
content is held trimmed, and only under names that say something and are not prefetched. A report
brings no content, whatever the reply holds. -/
inductive TakesIn (r : DeliveryReply) (c : Cache) : CallKind → ContentMap → Cache → Prop
  | prefetch {returned : ContentMap} {after : Cache}
    (returned_eq : ∀ name : String, returned[name]? = (r.named "prefetch" name).getLast?)
    (prefetched : ∀ name : String,
      after.prefetched[name]? = returned[name]?.or c.prefetched[name]?)
    (loaded : ∀ name : String,
      after.loaded[name]? = if returned[name]?.isSome then none else c.loaded[name]?) :
    TakesIn r c .prefetch returned after
  | execute {returned : ContentMap} {after : Cache}
    (returned_eq : ∀ name : String, returned[name]? = (r.named "execute" name).getLast?)
    (prefetched : after.prefetched = c.prefetched)
    (loaded : ∀ name : String, after.loaded[name]? =
      if name ≠ "" ∧ c.prefetched[name]? = none then
        (returned[name]?.map MboxContent.trimmed).or c.loaded[name]?
      else c.loaded[name]?) :
    TakesIn r c .execute returned after
  | report {kind : CallKind} (is_report : kind = .displayed ∨ kind = .clicked) :
    TakesIn r c kind ∅ c

variable {r : DeliveryReply} {c after : Cache} {kind : CallKind} {returned : ContentMap}

theorem takesIn_keep (r : DeliveryReply) (c : Cache) (kind : CallKind) :
    c.TakesIn r kind (r.content kind) (c.keep kind (r.content kind)) := by
  cases kind with
  | prefetch =>
    exact .prefetch (DeliveryReply.getElem?_mboxes "prefetch" · r)
      (getElem?_prefetched_addPrefetched _ c) (getElem?_loaded_addPrefetched _ c)
  | execute =>
    refine .execute (DeliveryReply.getElem?_mboxes "execute" · r) (prefetched_addLoaded _ c) ?_
    intro name
    simp only [← loads_iff]
    exact getElem?_loaded_addLoaded _ c name
  | displayed => exact .report (.inl rfl)
  | clicked => exact .report (.inr rfl)

/-- A cache is what is found in it. -/
theorem ext_getElem? {c d : Cache}
    (prefetched : ∀ name : String, c.prefetched[name]? = d.prefetched[name]?)
    (loaded : ∀ name : String, c.loaded[name]? = d.loaded[name]?) : c = d := by
  obtain ⟨_, _⟩ := c
  obtain ⟨_, _⟩ := d
  obtain rfl := Std.ExtTreeMap.ext_getElem? fun {name} => prefetched name
  obtain rfl := Std.ExtTreeMap.ext_getElem? fun {name} => loaded name
  rfl

/-- What a cache takes in is determined. -/
theorem takesIn_iff :
    c.TakesIn r kind returned after ↔
      returned = r.content kind ∧ after = c.keep kind (r.content kind) := by
  constructor
  · intro takes
    cases takes with
    | prefetch returned_eq prefetched loaded =>
      obtain rfl : returned = r.content .prefetch := Std.ExtTreeMap.ext_getElem? fun {name} =>
        (returned_eq name).trans (DeliveryReply.getElem?_mboxes "prefetch" name r).symm
      refine ⟨rfl, ext_getElem? (fun name => ?_) fun name => ?_⟩
      · exact (prefetched name).trans (getElem?_prefetched_addPrefetched _ c name).symm
      · exact (loaded name).trans (getElem?_loaded_addPrefetched _ c name).symm
    | execute returned_eq prefetched loaded =>
      obtain rfl : returned = r.content .execute := Std.ExtTreeMap.ext_getElem? fun {name} =>
        (returned_eq name).trans (DeliveryReply.getElem?_mboxes "execute" name r).symm
      refine ⟨rfl, ext_getElem? (fun name => ?_) fun name => ?_⟩
      · exact congrArg (·[name]?) (prefetched.trans (prefetched_addLoaded _ c).symm)
      · rw [loaded name]
        simp only [← loads_iff]
        exact (getElem?_loaded_addLoaded _ c name).symm
    | report is_report => rcases is_report with rfl | rfl <;> exact ⟨rfl, rfl⟩
  · rintro ⟨rfl, rfl⟩
    exact c.takesIn_keep r kind

end Cache

/-! ## Replies -/

/-- What is left after a reply to a call. -/
inductive Reconciles (now : Int64) (kind : CallKind) (reply : HttpReply) (s : Session) (c : Cache) :
    Reconciliation → Prop
  | unreadable (no_object : ∀ body, Json.ofUtf8? reply.body ≠ some (.object body)) :
    Reconciles now kind reply s c
      { session := s, cache := c, writes := [], result := .error .malformedReply }
  | message {body : Json.Fields} {change : Session.Change} {text : String}
    (object : Json.ofUtf8? reply.body = some (.object body)) (absorbs : s.Absorbs now body change)
    (reported : body.get? "message" = some (.string text)) :
    Reconciles now kind reply s c
      { session := change.session, cache := c, writes := change.writes
        result := .error (.application reply.status text) }
  | status {body : Json.Fields} {change : Session.Change}
    (object : Json.ofUtf8? reply.body = some (.object body)) (absorbs : s.Absorbs now body change)
    (not_ok : reply.status ≠ 200) (silent : ∀ text, body.get? "message" ≠ some (.string text)) :
    Reconciles now kind reply s c
      { session := change.session, cache := c, writes := change.writes
        result := .error (.application reply.status "unknown error") }
  | content {body : Json.Fields} {change : Session.Change} {returned : ContentMap} {after : Cache}
    (object : Json.ofUtf8? reply.body = some (.object body)) (absorbs : s.Absorbs now body change)
    (ok : reply.status = 200) (silent : ∀ text, body.get? "message" ≠ some (.string text))
    (takes : c.TakesIn { status := reply.status, body } kind returned after) :
    Reconciles now kind reply s c
      { session := change.session, cache := after, writes := change.writes, result := .ok returned }

namespace DeliveryReply

theorem ofHttp?_of_object {reply : HttpReply} {body : Json.Fields}
    (object : Json.ofUtf8? reply.body = some (.object body)) :
    ofHttp? reply = some { status := reply.status, body } := by
  simp [ofHttp?, object, Json.asObject?]

theorem ofHttp?_of_no_object {reply : HttpReply}
    (no_object : ∀ body, Json.ofUtf8? reply.body ≠ some (.object body)) : ofHttp? reply = none := by
  rw [ofHttp?, Option.map_eq_none_iff, Option.eq_none_iff_forall_ne_some]
  intro body read
  obtain ⟨value, parsed, object⟩ := Option.bind_eq_some_iff.mp read
  rw [Json.asObject?_eq_some.mp object] at parsed
  exact no_object body parsed

variable {status : UInt16} {body : Json.Fields}

theorem failure?_of_message {text : String} (reported : body.get? "message" = some (.string text)) :
    failure? { status, body } = some (.application status text) := by
  simp [failure?, message?, reported, Json.asString?]

/-- Without a message the status decides. -/
theorem failure?_of_silent (silent : ∀ text, body.get? "message" ≠ some (.string text)) :
    failure? { status, body } =
      if status = 200 then none else some (.application status "unknown error") := by
  have no_message : message? { status, body } = none := by
    rw [Option.eq_none_iff_forall_ne_some]
    intro text reported
    obtain ⟨value, held, is_string⟩ := Option.bind_eq_some_iff.mp reported
    rw [Json.asString?_eq_some.mp is_string] at held
    exact silent text held
  simp [failure?, statusOk, no_message]

end DeliveryReply

variable {now : Int64} {kind : CallKind} {reply : HttpReply} {s : Session} {c : Cache}

/-- A reply that can be read is taken in, whatever it reports; what it reports decides about the
rest. -/
theorem reconcile_of_object {body : Json.Fields} {change : Session.Change}
    (object : Json.ofUtf8? reply.body = some (.object body)) (absorbs : s.Absorbs now body change) :
    reconcile now kind reply s c =
      let r : DeliveryReply := { status := reply.status, body }
      match r.failure? with
      | some failure =>
        { session := change.session, cache := c, writes := change.writes, result := .error failure }
      | none =>
        { session := change.session, cache := c.keep kind (r.content kind), writes := change.writes
          result := .ok (r.content kind) } := by
  obtain rfl : change = s.absorb now { status := reply.status, body } :=
    Session.absorbs_iff.mp absorbs
  cases failed : DeliveryReply.failure? { status := reply.status, body } <;>
    simp only [reconcile, DeliveryReply.ofHttp?_of_object object, failed]

theorem reconciles_reconcile (now : Int64) (kind : CallKind) (reply : HttpReply) (s : Session)
    (c : Cache) : Reconciles now kind reply s c (reconcile now kind reply s c) := by
  by_cases object : ∃ body : Json.Fields, Json.ofUtf8? reply.body = some (.object body)
  · obtain ⟨body, object⟩ := object
    have absorbs := Session.absorbs_absorb now { status := reply.status, body } s
    rw [reconcile_of_object object absorbs]
    by_cases reported : ∃ text, body.get? "message" = some (.string text)
    · obtain ⟨text, reported⟩ := reported
      simp only [DeliveryReply.failure?_of_message reported]
      exact .message object absorbs reported
    · have silent := not_exists.mp reported
      simp only [DeliveryReply.failure?_of_silent silent]
      by_cases ok : reply.status = 200
      · simp only [if_pos ok]
        exact .content object absorbs ok silent (Cache.takesIn_keep _ c kind)
      · simp only [if_neg ok]
        exact .status object absorbs ok silent
  · have no_object := not_exists.mp object
    simp only [reconcile, DeliveryReply.ofHttp?_of_no_object no_object]
    exact .unreadable no_object

/-- **A reply changes what `Reconciles` says, and nothing else.** A body that is no object changes
nothing. Any other one is taken in by the session, also with an error; then the cache takes in
content, if the status is 200 and there is no message. -/
theorem reconciles_iff {outcome : Reconciliation} :
    Reconciles now kind reply s c outcome ↔ outcome = reconcile now kind reply s c := by
  constructor
  · intro reconciles
    cases reconciles with
    | unreadable no_object => simp only [reconcile, DeliveryReply.ofHttp?_of_no_object no_object]
    | message object absorbs reported =>
      simp only [reconcile_of_object object absorbs, DeliveryReply.failure?_of_message reported]
    | status object absorbs not_ok silent =>
      simp only [reconcile_of_object object absorbs, DeliveryReply.failure?_of_silent silent,
        if_neg not_ok]
    | content object absorbs ok silent takes =>
      obtain ⟨rfl, rfl⟩ := Cache.takesIn_iff.mp takes
      simp only [reconcile_of_object object absorbs, DeliveryReply.failure?_of_silent silent,
        if_pos ok]
  · rintro rfl
    exact reconciles_reconcile now kind reply s c

end ContentDelivery
