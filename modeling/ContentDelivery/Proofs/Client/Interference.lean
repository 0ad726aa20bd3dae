/-
ContentDelivery.Proofs.Client.Interference — what becomes of the store does not matter.

`only_first_reads_count` compares two clients over two stores of whatever
kind, one of which may drop every write, find nothing, or be written by
others at any time. If the stores answer the five reads of a starting
client alike, nobody can tell the clients apart from then on: asked the
same, they answer, tell, send, hold and write the same, up to the ids
that are generated on the way.

A `Deployment` is a client with what its store holds at the moment. Its
history consists of operations, whose writes go to the store as the store
takes them, and of disturbances, which leave in the store whatever others
like. Both change what the store holds, and so what the two stores hold
drifts apart; the steps of the client are those of its laps without any
store (`steps_eq_laps`). What is left of the comparison is that generated
ids are names, where the id of a loaded session stands for itself
(`Renaming.keeping`).
-/
import ContentDelivery.Proofs.Client.Renaming

namespace ContentDelivery

/-! ## Stores that are loaded alike -/

namespace Session

/-- Two stores answer the reads by which a session is loaded alike. -/
structure LoadedAlike (store : KeyValueStore σ) (s : σ) (other : KeyValueStore τ) (t : τ) :
    Prop where
  tntId : store.getString? s StoreKey.tntId = other.getString? t StoreKey.tntId
  thirdPartyId : store.getString? s StoreKey.thirdPartyId = other.getString? t StoreKey.thirdPartyId
  edgeHost : store.getString? s StoreKey.edgeHost = other.getString? t StoreKey.edgeHost
  sessionId : store.getString? s StoreKey.sessionId = other.getString? t StoreKey.sessionId
  sessionTimestamp : store.getInteger? s StoreKey.sessionTimestamp =
    other.getInteger? t StoreKey.sessionTimestamp

theorem LoadedAlike.load_eq {store : KeyValueStore σ} {s : σ} {other : KeyValueStore τ} {t : τ}
    (alike : LoadedAlike store s other t) : load store s = load other t := by
  rw [load, load, alike.tntId, alike.thirdPartyId, alike.edgeHost, alike.sessionId,
    alike.sessionTimestamp]

/-- A store that works but is empty, and one that does not work. -/
theorem loadedAlike_broken (t : τ) : LoadedAlike .memory ∅ .broken t := by
  constructor <;> rfl

end Session

theorem Client.start_eq {store : KeyValueStore σ} {s : σ} {other : KeyValueStore τ} {t : τ}
    (alike : Session.LoadedAlike store s other t) (configuration : Option Configuration) :
    start store s configuration = start other t configuration := by
  unfold start
  rw [alike.load_eq]

/-! ## Deployments -/

/-- A client in use, with what its store holds at the moment. -/
structure Deployment (σ : Type u) where
  store : KeyValueStore σ
  contents : σ
  client : Client

/-- What happens to a client and its store. -/
inductive Happening (σ : Type u) where
  | operation (m : Moment)
  /-- Others change what the store holds. -/
  | disturbance (change : σ → σ)

namespace Happening

/-- The operations of a history. -/
def operations (history : List (Happening σ)) : List Moment :=
  history.filterMap fun
    | operation m => some m
    | disturbance _ => none

end Happening

open Happening (operations)

namespace Deployment

def start (store : KeyValueStore σ) (contents : σ) (configuration : Option Configuration) :
    Deployment σ :=
  let step := Client.start store contents configuration
  { store, contents := store.writeAll step.writes contents, client := step.client }

def after (happening : Happening σ) (d : Deployment σ) : Deployment σ :=
  match happening with
  | .operation m =>
    let step := d.client.act m
    { d with contents := d.store.writeAll step.writes d.contents, client := step.client }
  | .disturbance change => { d with contents := change d.contents }

/-- What the client does in a history, one operation after another. -/
def steps : List (Happening σ) → Deployment σ → List (Step Outcome)
  | [], _ => []
  | .operation m :: history, d => d.client.act m :: steps history (d.after (.operation m))
  | .disturbance change :: history, d => steps history (d.after (.disturbance change))

/-- As long as nobody disturbs the store, it holds what the run left there. -/
theorem foldl_after_operation (r : Run σ) :
    (r.moments.map Happening.operation).foldl (fun d happening => d.after happening)
        (start r.store r.contents r.configuration) =
      { store := r.store, contents := r.stored, client := r.client } := by
  induction r using Run.induction with
  | start store contents configuration =>
    simp [start, Run.stored, Run.writes, Run.laps, Client.laps, Run.client, Client.after, Run.start]
  | next r m ih =>
    have same : (r.next m).store = r.store ∧ (r.next m).contents = r.contents ∧
        (r.next m).configuration = r.configuration ∧ (r.next m).moments = r.moments ++ [m] :=
      ⟨rfl, rfl, rfl, rfl⟩
    obtain ⟨store_eq, contents_eq, configuration_eq, moments_eq⟩ := same
    rw [store_eq, contents_eq, configuration_eq, moments_eq, List.map_append, List.foldl_append, ih,
      Run.stored_next, Run.client_next]
    rfl

/-- What the store holds has no part in what the client does. -/
theorem steps_eq_laps (history : List (Happening σ)) (d : Deployment σ) :
    d.steps history = (d.client.laps (operations history)).map Lap.step := by
  induction history generalizing d with
  | nil => rfl
  | cons happening history ih =>
    cases happening with
    | operation m => exact congrArg (d.client.act m :: ·) (ih (d.after (.operation m)))
    | disturbance change => exact ih (d.after (.disturbance change))

end Deployment

/-! ## Renamings that keep an id -/

namespace Renaming

/-- The renaming where one more id of a session, such as that of a loaded one, stands for itself. -/
def keeping (id : String) (ρ : Renaming) : Renaming where
  session s t := s = id ∧ t = id ∨ ρ.session s t
  notification := ρ.notification

variable {ρ : Renaming}

theorem OneToOne.keeping {id : String} (oneToOne : ρ.OneToOne)
    (unused : ∀ {s t : String}, ρ.session s t → s ≠ id ∧ t ≠ id) : (ρ.keeping id).OneToOne where
  session := by
    constructor
    · rintro s s' t (⟨rfl, rfl⟩ | related) (⟨rfl, same⟩ | related')
      · rfl
      · exact absurd rfl (unused related').2
      · exact absurd same (unused related).2
      · exact oneToOne.session.1 related related'
    · rintro s t t' (⟨rfl, rfl⟩ | related) (⟨same, rfl⟩ | related')
      · rfl
      · exact absurd rfl (unused related').1
      · exact absurd same (unused related).1
      · exact oneToOne.session.2 related related'
  notification := oneToOne.notification

end Renaming

theorem Moment.Alike.keeping {ρ : Renaming} {m n : Moment} (alike : m.Alike ρ n) (id : String) :
    m.Alike (ρ.keeping id) n :=
  { alike with here := { alike.here with session := .inr alike.here.session } }

/-- A client without pending reports agrees with itself, if its session's id stands for itself. -/
theorem Client.alike_keeping (ρ : Renaming) {c : Client} (none_pending : c.pending = []) :
    c.Alike (ρ.keeping c.session.id) c where
  session := by
    refine ⟨?_, rfl⟩
    by_cases no_id : c.session.id = ""
    · exact .inl ⟨no_id, no_id⟩
    · exact .inr ⟨no_id, no_id, .inl ⟨rfl, rfl⟩⟩
  cache := rfl
  pending := by rw [none_pending]; exact .nil
  configuration := rfl

/-! ## Two deployments -/

namespace Deployment

/-- **Only the first reads count.** Take two stores of whatever kind, faithful or not, that answer
the five reads of a starting client alike, and let a client be started over each, with the same
configuration. They start in the same way. Then let the same operations be asked of both, with the
same clock, host and answers, while others change what either store holds, each on its own and
whenever they like. In both, each operation comes to the same result, request, events and writes and
leaves the same session, content, reports and configuration, up to the ids that are generated, of
which those stand for each other that are made at the same place; the id of a session that was
loaded stands for itself. If each id is made once only and the loaded one never, the renaming is one
to one, and if the same ids are generated, nothing differs at all. -/
theorem only_first_reads_count {store : KeyValueStore σ} {s : σ} {other : KeyValueStore τ} {t : τ}
    (alike : Session.LoadedAlike store s other t) (configuration : Option Configuration)
    {first : List (Happening σ)} {second : List (Happening τ)}
    (common : List.Forall₂ Moment.SameButIds (operations first) (operations second))
    (nonempty : ∀ m ∈ operations first ++ operations second, m.here.freshSessionId ≠ "") :
    let started := Client.start store s configuration
    let loaded := started.client.session.id
    let ρ := (Renaming.ofPlaces (operations first) (operations second)).keeping loaded
    Client.start other t configuration = started ∧
    List.Forall₂ (Step.Alike ρ) ((start store s configuration).steps first)
      ((start other t configuration).steps second) ∧
    (DistinctIds (operations first) → DistinctIds (operations second) →
      (∀ m ∈ operations first ++ operations second, m.here.freshSessionId ≠ loaded) →
      ρ.OneToOne) ∧
    (operations first = operations second →
      (start store s configuration).steps first = (start other t configuration).steps second) := by
  intro started loaded ρ
  have start_eq : Client.start other t configuration = started :=
    (Client.start_eq alike configuration).symm
  have first_eq : (start store s configuration).steps first = _ := steps_eq_laps first _
  have second_eq : (start other t configuration).steps second = _ := steps_eq_laps second _
  have client_eq : (start other t configuration).client = started.client :=
    congrArg Step.client start_eq
  rw [client_eq] at second_eq
  refine ⟨start_eq, ?_, ?_, ?_⟩
  · rw [first_eq, second_eq, List.forall₂_map_left_iff, List.forall₂_map_right_iff]
    have places := (Moment.alike_ofPlaces common nonempty).imp fun m n same => same.keeping loaded
    have self : started.client.Alike ρ started.client :=
      Client.alike_keeping _ (Client.pending_start store s configuration)
    exact self.laps places
  · intro first_distinct second_distinct unused
    refine (Renaming.oneToOne_ofPlaces first_distinct second_distinct).keeping ?_
    rintro _ _ ⟨i, m, n, hm, hn, rfl, rfl⟩
    exact ⟨unused m (List.mem_append_left _ (List.mem_of_getElem? hm)),
      unused n (List.mem_append_right _ (List.mem_of_getElem? hn))⟩
  · intro same
    rw [first_eq, second_eq, same]
    rfl

/-- Over an empty store, where others put another edge host and remove the session that was just
stored, the second request of a session is like that of a client whose store does not work. -/
theorem only_first_reads_count_over_broken_store :
    let acme : Option Configuration := some { clientCode := "acme", privacy := .optedIn }
    let ask (generated : String) : Moment :=
      { here :=
          { millis := 5000, utcOffset := 0, freshSessionId := generated
            freshNotificationId := fun _ => generated, facts := {} }
        answer := .ok { status := 200, body := "\x7b\"edgeHost\":\"edge\"\x7d".toUTF8 }
        operation := .call (.execute [{ name := "box" }] none), direct := false }
    let first : List (Happening Storage) :=
      [ .operation (ask "one"),
        .disturbance (Storage.write (.setString StoreKey.edgeHost "elsewhere")),
        .disturbance (Storage.write (.remove StoreKey.sessionId)),
        .operation (ask "unused") ]
    let second : List (Happening Unit) := [.operation (ask "other"), .operation (ask "unneeded")]
    let ρ := (Renaming.ofPlaces [ask "one", ask "unused"] [ask "other", ask "unneeded"]).keeping ""
    Session.LoadedAlike .memory ∅ .broken () ∧
    ∃ a b c d, (start .memory ∅ acme).steps first = [a, b] ∧
      (start .broken () acme).steps second = [c, d] ∧ Step.Alike ρ a c ∧ Step.Alike ρ b d ∧
      b.client.session.id = "one" ∧ b.client.session.edgeHost = some "edge" := by
  intro acme ask first second ρ
  have alike : Session.LoadedAlike .memory ∅ .broken () := Session.loadedAlike_broken ()
  have same : ∀ one other, (ask one).SameButIds (ask other) :=
    fun _ _ => ⟨rfl, rfl, rfl, rfl, rfl, rfl⟩
  have common : List.Forall₂ Moment.SameButIds (operations first) (operations second) :=
    .cons (same "one" "other") (.cons (same "unused" "unneeded") .nil)
  have nonempty : ∀ m ∈ operations first ++ operations second, m.here.freshSessionId ≠ "" := by
    simp [first, second, operations, ask]
  obtain ⟨-, steps, -⟩ := only_first_reads_count alike acme common nonempty
  obtain ⟨alike_first, rest⟩ := List.forall₂_cons.mp steps
  obtain ⟨alike_second, -⟩ := List.forall₂_cons.mp rest
  exact ⟨alike, _, _, _, _, rfl, rfl, alike_first, alike_second, by decide +kernel,
    by decide +kernel⟩

end Deployment

end ContentDelivery
