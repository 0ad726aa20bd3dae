/-
ContentDelivery.Proofs.Client.Identity — where the visitor's ids come from.

`identity_last_told`: an id of the visitor is the one that was told last.
The service tells its id in replies, whatever they answer and also with
an error; the host tells its own id by setting it; a visitor who is
forgotten has neither. Whatever else happens to a client tells nothing
and changes nothing, and what a request carries is what was told before.

So each id has its own history (`Lap.TellsTntId`,
`Lap.TellsThirdPartyId`), and `LastTold` reads the last value off it.
`Run.lastTold_iff` needs of an id only that an operation takes the value
that it tells, and keeps the one there is if it tells none.
-/
import ContentDelivery.Proofs.Client.Payload
import ContentDelivery.Proofs.Client.Publication

namespace ContentDelivery

/-! ## Answers -/

/-- The answer is a reply, of whatever status, that gives the visitor an id: its body is an object
with another object as `id`, where `tntId` is a string. -/
def GivesTntId (answer : Except Failure HttpReply) (id : String) : Prop :=
  ∃ (reply : HttpReply) (fields block : Json.Fields), answer = .ok reply ∧
    Json.ofUtf8? reply.body = some (.object fields) ∧ fields.get? "id" = some (.object block) ∧
    block.get? "tntId" = some (.string id)

theorem DeliveryReply.tntId?_eq_some {r : DeliveryReply} {id : String} :
    r.tntId? = some id ↔
      ∃ block : Json.Fields, r.body.get? "id" = some (.object block) ∧
        block.get? "tntId" = some (.string id) := by
  simp [tntId?, Option.bind_eq_some_iff, Json.stringField?_eq_some]

theorem givesTntId_iff {answer : Except Failure HttpReply} {id : String} :
    GivesTntId answer id ↔ (Session.readable? answer).bind DeliveryReply.tntId? = some id := by
  cases answer with
  | error failure => simp [GivesTntId, Session.readable?, Except.toOption]
  | ok reply =>
    simp [GivesTntId, Session.readable?, Except.toOption, DeliveryReply.ofHttp?,
      DeliveryReply.tntId?_eq_some, Option.bind_eq_some_iff, Json.asObject?_eq_some]

/-- The visitor after an answer, which may give the service's id but no other. -/
def IdentityState.learn (answer : Except Failure HttpReply) (visitor : IdentityState) :
    IdentityState :=
  match (Session.readable? answer).bind DeliveryReply.tntId? with
  | some id => { visitor with tntId := nonempty? (some id) }
  | none => visitor

namespace IdentityState

variable {answer : Except Failure HttpReply}

theorem learn_of_gives {id : String} (gives : GivesTntId answer id) (visitor : IdentityState) :
    visitor.learn answer = { visitor with tntId := nonempty? (some id) } := by
  rw [learn, givesTntId_iff.mp gives]

theorem learn_of_gives_none (nothing : ∀ id, ¬GivesTntId answer id) (visitor : IdentityState) :
    visitor.learn answer = visitor := by
  have none_given : (Session.readable? answer).bind DeliveryReply.tntId? = none :=
    Option.eq_none_iff_forall_ne_some.mpr fun id given => nothing id (givesTntId_iff.mpr given)
  rw [learn, none_given]

theorem thirdPartyId_learn (answer : Except Failure HttpReply) (visitor : IdentityState) :
    (visitor.learn answer).thirdPartyId = visitor.thirdPartyId := by
  unfold learn
  split <;> rfl

end IdentityState

theorem Session.identity_learn (now : Int64) (answer : Except Failure HttpReply) (s : Session) :
    (s.learn now answer).session.identity = s.identity.learn answer := by
  unfold learn IdentityState.learn
  cases readable? answer with
  | none => rfl
  | some r =>
    cases given : r.tntId? <;> cases host : r.edgeHost? <;>
      simp [absorb, given, host, refresh, setTntId, identity]

/-! ## Single operations -/

namespace Client

/-- Of all answers only those to a request count. -/
theorem identifiers_perform (here : Surroundings) (answer : Except Failure HttpReply) (call : Call)
    (c : Client) :
    let step := c.perform here answer call
    step.client.identifiers =
      if step.request = none then c.identifiers else c.identifiers.learn answer := by
  intro step
  rcases perform_cases here answer call c with refused | ⟨_, stranded⟩ | ⟨_, request, sent⟩
  · have unasked : step.request = none := refused.request
    rw [if_pos unasked]
    exact congrArg identifiers refused.client
  · have unasked : step.request = none := stranded.request
    rw [if_pos unasked]
    exact (congrArg identifiers stranded.client).trans (Session.identity_reading here c.session)
  · have asked : step.request ≠ none := by simp [step, sent.request]
    have learnt : step.client.identifiers = _ :=
      (congrArg Session.identity sent.session).trans (Session.identity_learn _ _ _)
    rw [if_neg asked, learnt, Session.identity_reading]
    rfl

end Client

/-! ## What a lap tells -/

namespace Lap

/-- What an operation tells of the id that the service gave the visitor. -/
inductive TellsTntId (l : Lap) : Option String → Prop
  | reply {id : String} (asked : l.step.request ≠ none) (gives : GivesTntId l.moment.answer id) :
    l.TellsTntId (nonempty? (some id))
  | forgotten (forgets : l.moment.operation.forgets = true) : l.TellsTntId none

/-- What an operation tells of the id that the host gave the visitor. -/
inductive TellsThirdPartyId (l : Lap) : Option String → Prop
  | set {id : Option String} (sets : l.moment.operation = .setThirdPartyId id)
    (remembered : ¬l.before.HasOptedOut) : l.TellsThirdPartyId (nonempty? id)
  | forgotten (forgets : l.moment.operation.forgets = true) : l.TellsThirdPartyId none

variable {l : Lap}

/-! ### How the identity changes -/

theorem identifiers_of_call {call : Call} (op : l.moment.operation = .call call) :
    l.step.client.identifiers =
      if l.step.request = none then l.before.identifiers
      else l.before.identifiers.learn l.moment.answer := by
  have client_eq : l.step.client = _ := Client.client_act_call op l.before
  have request_eq : l.step.request = _ := Client.request_act_call op l.before
  rw [client_eq, request_eq, Client.identifiers_perform]

theorem identifiers_of_asked (asked : l.step.request ≠ none) :
    l.step.client.identifiers = l.before.identifiers.learn l.moment.answer := by
  by_cases is_call : ∃ call, l.moment.operation = .call call
  · obtain ⟨call, op⟩ := is_call
    rw [identifiers_of_call op, if_neg asked]
  · exact absurd (Client.request_act_of_not_call (not_exists.mp is_call) l.before) asked

theorem identifiers_of_forgets (forgets : l.moment.operation.forgets = true) :
    l.step.client.identifiers = .unknown := by
  obtain ⟨s, client_eq⟩ := Client.exists_forget_of_forgets forgets l.before
  exact (congrArg Client.identifiers client_eq).trans s.identity_forget

theorem identifiers_of_set {id : Option String} (sets : l.moment.operation = .setThirdPartyId id)
    (remembered : ¬l.before.HasOptedOut) :
    l.step.client.identifiers = { l.before.identifiers with thirdPartyId := nonempty? id } := by
  have client_eq : l.step.client = (l.before.setThirdPartyId id).client :=
    Client.client_act_of sets l.before
  have step_eq : l.before.setThirdPartyId id = _ := if_neg remembered
  rw [client_eq, step_eq]
  rfl

/-- Nothing else changes the identity. -/
theorem identifiers_of_other (unasked : l.step.request = none)
    (remembers : l.moment.operation.forgets ≠ true)
    (not_set : ∀ id, l.moment.operation = .setThirdPartyId id → l.before.HasOptedOut) :
    l.step.client.identifiers = l.before.identifiers := by
  cases op : l.moment.operation with
  | call call => rw [identifiers_of_call op, if_pos unasked]
  | reset => exact absurd (Operation.forgets_iff.mpr (.inl op)) remembers
  | setThirdPartyId id =>
    have client_eq : l.step.client = (l.before.setThirdPartyId id).client :=
      Client.client_act_of op l.before
    rw [client_eq, Client.setThirdPartyId_of_hasOptedOut (not_set id op)]
  | getIdentifiers => exact congrArg Client.identifiers (Client.client_act_of op l.before)
  | configure configuration =>
    have not_optedOut : configuration.privacy ≠ .optedOut := fun optedOut =>
      remembers (Operation.forgets_iff.mpr (.inr ⟨configuration, op, optedOut⟩))
    have client_eq : l.step.client = (l.before.configure configuration).client :=
      Client.client_act_of op l.before
    rw [client_eq]
    exact (l.before.events_configure_of_not_optedOut not_optedOut).2

/-! ### Told and kept -/

theorem tntId_of_told {id : Option String} (told : l.TellsTntId id) :
    l.step.client.identifiers.tntId = id := by
  cases told with
  | reply asked gives => rw [identifiers_of_asked asked, IdentityState.learn_of_gives gives]
  | forgotten forgets =>
    rw [identifiers_of_forgets forgets]
    rfl

theorem tntId_of_not_told (nothing : ∀ id, ¬l.TellsTntId id) :
    l.step.client.identifiers.tntId = l.before.identifiers.tntId := by
  by_cases unasked : l.step.request = none
  · by_cases sets : ∃ id, l.moment.operation = .setThirdPartyId id ∧ ¬l.before.HasOptedOut
    · obtain ⟨id, op, remembered⟩ := sets
      rw [identifiers_of_set op remembered]
    · have not_set : ∀ id, l.moment.operation = .setThirdPartyId id → l.before.HasOptedOut :=
        fun id op => not_not.mp fun remembered => sets ⟨id, op, remembered⟩
      rw [identifiers_of_other unasked (fun forgets => nothing none (.forgotten forgets)) not_set]
  · have gives_none : ∀ id, ¬GivesTntId l.moment.answer id := fun id gives =>
      nothing _ (.reply unasked gives)
    rw [identifiers_of_asked unasked, IdentityState.learn_of_gives_none gives_none]

theorem thirdPartyId_of_told {id : Option String} (told : l.TellsThirdPartyId id) :
    l.step.client.identifiers.thirdPartyId = id := by
  cases told with
  | set sets remembered => rw [identifiers_of_set sets remembered]
  | forgotten forgets =>
    rw [identifiers_of_forgets forgets]
    rfl

theorem thirdPartyId_of_not_told (nothing : ∀ id, ¬l.TellsThirdPartyId id) :
    l.step.client.identifiers.thirdPartyId = l.before.identifiers.thirdPartyId := by
  by_cases unasked : l.step.request = none
  · have not_set : ∀ id, l.moment.operation = .setThirdPartyId id → l.before.HasOptedOut :=
      fun id op => not_not.mp fun remembered => nothing _ (.set op remembered)
    rw [identifiers_of_other unasked (fun forgets => nothing none (.forgotten forgets)) not_set]
  · rw [identifiers_of_asked unasked, IdentityState.thirdPartyId_learn]

end Lap

/-! ## Histories -/

/-- Nothing is told in a history. -/
def NothingTold (tells : Lap → α → Prop) (laps : List Lap) : Prop :=
  ∀ l ∈ laps, ∀ value, ¬tells l value

/-- The value that a history comes to: the one that was told last, or if none was told, the one at
first. -/
def LastTold (tells : Lap → α → Prop) (first : α) (laps : List Lap) (value : α) : Prop :=
  (∃ earlier l later, laps = earlier ++ l :: later ∧ tells l value ∧ NothingTold tells later) ∨
  (NothingTold tells laps ∧ first = value)

section Histories

variable {tells : Lap → α → Prop} {first value : α} {laps : List Lap} {l : Lap}

theorem nothingTold_concat :
    NothingTold tells (laps ++ [l]) ↔ NothingTold tells laps ∧ ∀ value, ¬tells l value := by
  simp [NothingTold, or_imp, forall_and]

theorem lastTold_nil : LastTold tells first [] value ↔ first = value := by
  simp [LastTold, NothingTold]

theorem lastTold_concat :
    LastTold tells first (laps ++ [l]) value ↔
      tells l value ∨ (LastTold tells first laps value ∧ ∀ other, ¬tells l other) := by
  constructor
  · rintro (⟨earlier, k, later, split, told, nothing⟩ | ⟨nothing, at_first⟩)
    -- The lap that tells last is the new one, or some lap before it.
    · rcases List.eq_nil_or_concat later with rfl | ⟨between, last, rfl⟩
      · obtain ⟨-, last_eq⟩ := List.append_inj' split rfl
        obtain rfl := List.singleton_inj.mp last_eq
        exact .inl told
      · rw [List.concat_eq_append] at split nothing
        obtain ⟨quiet, last_quiet⟩ := nothingTold_concat.mp nothing
        rw [← List.cons_append, ← List.append_assoc] at split
        obtain ⟨laps_eq, last_eq⟩ := List.append_inj' split rfl
        obtain rfl := List.singleton_inj.mp last_eq
        exact .inr ⟨.inl ⟨earlier, k, between, laps_eq, told, quiet⟩, last_quiet⟩
    · obtain ⟨quiet, last_quiet⟩ := nothingTold_concat.mp nothing
      exact .inr ⟨.inr ⟨quiet, at_first⟩, last_quiet⟩
  · rintro (told | ⟨⟨earlier, k, later, rfl, told, quiet⟩ | ⟨quiet, at_first⟩, last_quiet⟩)
    · exact .inl ⟨laps, l, [], rfl, told, by simp [NothingTold]⟩
    · refine .inl ⟨earlier, k, later ++ [l], by simp, told, ?_⟩
      exact nothingTold_concat.mpr ⟨quiet, last_quiet⟩
    · exact .inr ⟨nothingTold_concat.mpr ⟨quiet, last_quiet⟩, at_first⟩

end Histories

/-! ## Runs -/

namespace Run

/-- Who the visitor is at first: the one whom the store knows, unless the client was started with a
configuration of one who opted out. -/
def visitorAtFirst (r : Run σ) : IdentityState :=
  if r.configuration.map Configuration.privacy = some .optedOut then .unknown
  else (Session.load r.store r.contents).identity

theorem identifiers_start (r : Run σ) : r.start.client.identifiers = r.visitorAtFirst := by
  obtain ⟨store, contents, configuration, moments⟩ := r
  let loaded : Client := { session := Session.load store contents }
  cases configuration with
  | none => rfl
  | some configuration =>
    by_cases optedOut : configuration.privacy = .optedOut
    · exact (loaded.events_configure_of_optedOut optedOut).2.trans
        (if_pos (congrArg some optedOut)).symm
    · exact (loaded.events_configure_of_not_optedOut optedOut).2.trans
        (if_neg (optedOut ∘ Option.some.inj)).symm

/-- A value is the one that was told last, if every operation takes over what it tells, and keeps
the value if it tells nothing. -/
theorem lastTold_iff {tells : Lap → α → Prop} {value : IdentityState → α}
    (told : ∀ {l : Lap} {v : α}, tells l v → value l.step.client.identifiers = v)
    (kept : ∀ {l : Lap}, (∀ v, ¬tells l v) →
      value l.step.client.identifiers = value l.before.identifiers) (r : Run σ) (v : α) :
    LastTold tells (value r.visitorAtFirst) r.laps v ↔ value r.client.identifiers = v := by
  induction r using Run.induction generalizing v with
  | start store contents configuration =>
    rw [← identifiers_start]
    exact lastTold_nil
  | next r m ih =>
    have after : (r.lap m).step.client = (r.next m).client := (r.client_next m).symm
    have same_first : (r.next m).visitorAtFirst = r.visitorAtFirst := rfl
    rw [laps_next, lastTold_concat, same_first, ih, ← after]
    constructor
    · rintro (tells_now | ⟨before, nothing⟩)
      · exact told tells_now
      · rw [kept nothing]
        exact before
    · intro now
      -- What the operation tells, if anything, is the value that there is now.
      by_cases tells_now : ∃ w, tells (r.lap m) w
      · obtain ⟨w, tells_now⟩ := tells_now
        rw [told tells_now] at now
        exact .inl (now ▸ tells_now)
      · have nothing := not_exists.mp tells_now
        exact .inr ⟨(kept nothing).symm.trans now, nothing⟩

/-- **The visitor's ids are those that were told last.** In every run, whatever the transport
answers: the service's id is the one that the last reply with an id gave, to a request of any kind
and also with an error, where an empty id takes away what there is; the host's own id is the last
one that was set while the visitor had not opted out, where an empty one and none take away what
there is. A reset and a configuration of one who opted out end both. If nothing of the kind
happened, the ids are those at first. Every request carries the ids before it on the wire. No reply
changes the host's own id, and an answer without an id of the service, be it a reply with anything
else in that place, one that cannot be read or none at all, changes neither. -/
theorem identity_last_told (r : Run σ) :
    (∀ id, LastTold Lap.TellsTntId r.visitorAtFirst.tntId r.laps id ↔
      r.client.identifiers.tntId = id) ∧
    (∀ id, LastTold Lap.TellsThirdPartyId r.visitorAtFirst.thirdPartyId r.laps id ↔
      r.client.identifiers.thirdPartyId = id) ∧
    (∀ m request, (r.client.act m).request = some request →
      (request.payload.toJson.field? "id").bind (Json.field? "tntId") =
        r.client.identifiers.tntId.map .string ∧
      (request.payload.toJson.field? "id").bind (Json.field? "thirdPartyId") =
        r.client.identifiers.thirdPartyId.map .string) ∧
    (∀ m call, m.operation = .call call →
      (r.client.act m).client.identifiers.thirdPartyId = r.client.identifiers.thirdPartyId ∧
      ((∀ id, ¬GivesTntId m.answer id) →
        (r.client.act m).client.identifiers.tntId = r.client.identifiers.tntId)) := by
  refine ⟨?_, ?_, ?_, ?_⟩
  · exact r.lastTold_iff Lap.tntId_of_told Lap.tntId_of_not_told
  · exact r.lastTold_iff Lap.thirdPartyId_of_told Lap.thirdPartyId_of_not_told
  · intro m request asked
    obtain ⟨_, _, -, sent⟩ := Client.exists_sent_of_request asked
    have conveys := DeliveryRequest.conveys_of_assemble sent.payload
    have shown := request.payload.shownOn_toJson
    have tntId : request.payload.ids.tntId = r.client.identifiers.tntId := conveys.tntId
    have thirdPartyId : request.payload.ids.thirdPartyId = r.client.identifiers.thirdPartyId :=
      conveys.thirdPartyId
    rw [← tntId, ← thirdPartyId]
    exact ⟨shown.tntId, shown.thirdPartyId⟩
  · intro m call op
    have remembers : m.operation.forgets ≠ true := by simp [op, Operation.forgets]
    refine ⟨(r.lap m).thirdPartyId_of_not_told ?_, fun gives_none =>
      (r.lap m).tntId_of_not_told ?_⟩
    · rintro id (⟨sets, -⟩ | forgets)
      · cases op.symm.trans sets
      · exact remembers forgets
    · rintro id (⟨-, gives⟩ | forgets)
      · exact gives_none _ gives
      · exact remembers forgets

/-- A known visitor gets another id by a reply that reports an error, and the host takes its own id
away: the next request carries the one and not the other. -/
theorem identity_last_told_by_error :
    let moment (operation : Operation) : Moment :=
      { here :=
          { millis := 5000, utcOffset := 0, freshSessionId := "session"
            freshNotificationId := fun _ => "report", facts := {} }
        answer := .ok
          { status := 503
            body := "\x7b\"id\":\x7b\"tntId\":\"visitor\"\x7d,\"message\":\"busy\"\x7d".toUTF8 }
        operation, direct := false }
    let m := moment (.call (.execute [{ name := "box" }] none))
    let r : Run Storage :=
      { store := .memory
        contents := ((∅ : Storage).insert StoreKey.tntId (.string "stored")).insert
          StoreKey.thirdPartyId (.string "partner")
        configuration := some { clientCode := "acme", privacy := .optedIn }
        moments := [m, moment (.setThirdPartyId (some ""))] }
    r.visitorAtFirst = { tntId := some "stored", thirdPartyId := some "partner" } ∧
    LastTold Lap.TellsTntId (some "stored") r.laps (some "visitor") ∧
    LastTold Lap.TellsThirdPartyId (some "partner") r.laps none ∧
    ∃ request, (r.client.act m).request = some request ∧
      (request.payload.toJson.field? "id").bind (Json.field? "tntId") =
        some (.string "visitor") ∧
      (request.payload.toJson.field? "id").bind (Json.field? "thirdPartyId") = none := by
  intro moment m r
  have at_first :
      r.visitorAtFirst = { tntId := some "stored", thirdPartyId := some "partner" } := by
    decide +kernel
  have current : r.client.identifiers = { tntId := some "visitor", thirdPartyId := none } := by
    decide +kernel
  obtain ⟨tntId, thirdPartyId, carried, -⟩ := identity_last_told r
  rw [at_first, current] at tntId thirdPartyId
  rw [current] at carried
  have asked : (r.client.act m).request.isSome = true := by decide +kernel
  obtain ⟨request, asked⟩ := Option.isSome_iff_exists.mp asked
  exact ⟨at_first, (tntId _).mpr rfl, (thirdPartyId _).mpr rfl, request, asked,
    carried m request asked⟩

end Run

end ContentDelivery
