/-
ContentDelivery.Proofs.Client.Content — where the content comes from that a client holds.

`content_is_last_returned`: in every run, what is prefetched under a name
is the mbox of that name from the last prefetch that returned one, and
what is loaded under a name is the mbox from the last execute that
returned one, trimmed, provided that the name says something and that no
prefetch returned it. Only replies without an error count, and only those
since the visitor was last forgotten (`Run.recent`). Everything else that
can be said of the two halves of the cache follows: they share no name,
and each mbox stands under its own.

A lap has one effect on what a name holds in each half
(`prefetched_step`, `loaded_step`). The two halves have opposite rules of
precedence, but a name that was prefetched stays so until the visitor is
forgotten, which is why one condition on the whole history decides about
the loaded half.
-/
import ContentDelivery.Proofs.Client.Operations
import ContentDelivery.Proofs.Content.Merging
import Mathlib.Data.List.DropRight

namespace ContentDelivery

/-! ## Laps -/

namespace Lap

/-- The reply to the request of the lap, if it is a success. -/
def success? (l : Lap) : Option DeliveryReply :=
  l.step.request.bind fun _ => DeliveryReply.success? l.moment.answer

/-- The mbox of a name that a prefetch returned: the last one with that name in the reply. -/
def prefetched? (name : String) (l : Lap) : Option MboxContent :=
  match l.moment.operation with
  | .call (.prefetch _ _) => l.success?.bind fun r => (r.named "prefetch" name).getLast?
  | _ => none

/-- The mbox of a name that an execute returned: the last one with that name in the reply. -/
def executed? (name : String) (l : Lap) : Option MboxContent :=
  match l.moment.operation with
  | .call (.execute _ _) => l.success?.bind fun r => (r.named "execute" name).getLast?
  | _ => none

theorem success?_of_no_request {l : Lap} (h : l.step.request = none) : l.success? = none := by
  simp [success?, h]

theorem name_of_getLast?_named {sectionName name : String} {reply : Option DeliveryReply}
    {mbox : MboxContent}
    (h : (reply.bind fun r => (r.named sectionName name).getLast?) = some mbox) :
    mbox.get? "name" = some (.string name) := by
  obtain ⟨r, -, last⟩ := Option.bind_eq_some_iff.mp h
  exact DeliveryReply.name_of_mem_named (List.mem_of_getLast? last)

theorem name_of_prefetched? {name : String} {l : Lap} {mbox : MboxContent}
    (h : l.prefetched? name = some mbox) : mbox.get? "name" = some (.string name) := by
  unfold prefetched? at h
  split at h
  · exact name_of_getLast?_named h
  · cases h

theorem name_of_executed? {name : String} {l : Lap} {mbox : MboxContent}
    (h : l.executed? name = some mbox) : mbox.get? "name" = some (.string name) := by
  unfold executed? at h
  split at h
  · exact name_of_getLast?_named h
  · cases h

/-! ## What a lap does to the cache -/

theorem cache_of_forgets {l : Lap} (forgets : l.moment.operation.forgets = true) :
    l.step.client.cache = {} := by
  obtain ⟨_, client_eq⟩ := Client.exists_forget_of_forgets forgets l.before
  exact congrArg Client.cache client_eq

/-- A call changes the cache by what its reply returned, if there is one without an error. -/
theorem cache_of_call {l : Lap} {call : Call} (op : l.moment.operation = .call call) :
    l.step.client.cache =
      match l.success? with
      | none => l.before.cache
      | some r => l.before.cache.keep call.kind (r.content call.kind) := by
  have client_eq : l.step.client = _ := Client.client_act_call op l.before
  have request_eq : l.step.request = _ := Client.request_act_call op l.before
  rcases Client.perform_cases l.moment.here l.moment.answer call l.before with refused |
    ⟨_, stranded⟩ | ⟨_, request, sent⟩
  · rw [success?_of_no_request (request_eq.trans refused.request), client_eq, refused.client]
  · rw [success?_of_no_request (request_eq.trans stranded.request), client_eq, stranded.client]
  · have success_eq : l.success? = DeliveryReply.success? l.moment.answer := by
      simp [success?, request_eq.trans sent.request]
    rw [client_eq, sent.cache, success_eq]
    rfl

theorem cache_of_no_call {l : Lap} (not_call : ∀ call, l.moment.operation ≠ .call call)
    (remembers : l.moment.operation.forgets = false) :
    l.step.client.cache = l.before.cache := by
  unfold step
  rw [Client.client_act]
  cases op : l.moment.operation with
  | call call => exact absurd op (not_call call)
  | reset => simp [op, Operation.forgets] at remembers
  | setThirdPartyId id => exact Client.cache_setThirdPartyId id l.before
  | getIdentifiers => rfl
  | configure configuration =>
    have not_optedOut : configuration.privacy ≠ .optedOut := by
      simpa [op, Operation.forgets] using remembers
    exact congrArg (·.client.cache) (Client.configure_of_not_optedOut not_optedOut l.before)

/-- Errors, answers that cannot be read and reports of displays and clicks leave the cache alone. -/
theorem cache_of_no_content {l : Lap} (remembers : l.moment.operation.forgets = false)
    (no_content : l.success? = none ∨
      ∀ call, l.moment.operation = .call call → call.kind = .displayed ∨ call.kind = .clicked) :
    l.step.client.cache = l.before.cache := by
  by_cases is_call : ∃ call, l.moment.operation = .call call
  · obtain ⟨call, op⟩ := is_call
    rw [cache_of_call op]
    cases success : l.success? with
    | none => rfl
    | some r =>
      have is_report := no_content.resolve_left (by simp [success])
      rcases is_report call op with kind | kind <;> simp [kind, Cache.keep]
  · exact cache_of_no_call (not_exists.mp is_call) remembers

theorem prefetched_step {l : Lap} (remembers : l.moment.operation.forgets = false)
    (name : String) :
    l.step.client.cache.prefetched[name]? =
      (l.prefetched? name).or l.before.cache.prefetched[name]? := by
  by_cases is_call : ∃ call, l.moment.operation = .call call
  · obtain ⟨call, op⟩ := is_call
    rw [cache_of_call op]
    unfold prefetched?
    cases success : l.success? with
    | none => cases call <;> simp [op]
    | some r =>
      cases call with
      | prefetch mboxes ps =>
        simp [op, Call.kind, Cache.keep, DeliveryReply.content,
          Cache.getElem?_prefetched_addPrefetched, DeliveryReply.getElem?_mboxes]
      | execute mboxes ps => simp [op, Call.kind, Cache.keep, Cache.prefetched_addLoaded]
      | displayed names ps => simp [op, Call.kind, Cache.keep]
      | clicked name ps => simp [op, Call.kind, Cache.keep]
  · have not_call := not_exists.mp is_call
    rw [cache_of_no_call not_call remembers]
    unfold prefetched?
    split
    · next op => exact absurd op (not_call _)
    · rfl

theorem loaded_step {l : Lap} (remembers : l.moment.operation.forgets = false) (name : String) :
    l.step.client.cache.loaded[name]? =
      if (l.prefetched? name).isSome then none
      else if l.before.cache.loads name then
        ((l.executed? name).map MboxContent.trimmed).or l.before.cache.loaded[name]?
      else l.before.cache.loaded[name]? := by
  by_cases is_call : ∃ call, l.moment.operation = .call call
  · obtain ⟨call, op⟩ := is_call
    rw [cache_of_call op]
    unfold prefetched? executed?
    cases success : l.success? with
    | none => cases call <;> simp [op]
    | some r =>
      cases call with
      | prefetch mboxes ps =>
        simp [op, Call.kind, Cache.keep, DeliveryReply.content,
          Cache.getElem?_loaded_addPrefetched, DeliveryReply.getElem?_mboxes]
      | execute mboxes ps =>
        simp [op, Call.kind, Cache.keep, DeliveryReply.content, Cache.getElem?_loaded_addLoaded,
          DeliveryReply.getElem?_mboxes]
      | displayed names ps => simp [op, Call.kind, Cache.keep]
      | clicked name ps => simp [op, Call.kind, Cache.keep]
  · have not_call := not_exists.mp is_call
    rw [cache_of_no_call not_call remembers]
    have nothing_prefetched : l.prefetched? name = none := by
      unfold prefetched?
      split
      · next op => exact absurd op (not_call _)
      · rfl
    have nothing_executed : l.executed? name = none := by
      unfold executed?
      split
      · next op => exact absurd op (not_call _)
      · rfl
    simp [nothing_prefetched, nothing_executed]

end Lap

/-! ## Runs -/

namespace Run

/-- The laps since the visitor was last forgotten, the first first. -/
def recent (r : Run σ) : List Lap := r.laps.rtakeWhile fun l => !l.moment.operation.forgets

/-- The mboxes of a name that prefetches returned since then, the first first. -/
def prefetches (name : String) (r : Run σ) : List MboxContent :=
  r.recent.filterMap (Lap.prefetched? name)

/-- The mboxes of a name that executes returned since then, the first first. -/
def executions (name : String) (r : Run σ) : List MboxContent :=
  r.recent.filterMap (Lap.executed? name)

theorem recent_next (m : Moment) (r : Run σ) :
    (r.next m).recent = if m.operation.forgets then [] else r.recent ++ [r.lap m] := by
  rw [recent, laps_next, List.rtakeWhile_concat]
  cases forgets : m.operation.forgets <;> simp [recent, lap, forgets]

theorem filterMap_recent_next (f : Lap → Option β) (m : Moment) (r : Run σ) :
    (r.next m).recent.filterMap f =
      if m.operation.forgets then [] else r.recent.filterMap f ++ (f (r.lap m)).toList := by
  rw [recent_next]
  cases m.operation.forgets with
  | true => rfl
  | false => cases returned : f (r.lap m) <;> simp [returned]

theorem prefetches_next (name : String) (m : Moment) (r : Run σ) :
    (r.next m).prefetches name =
      if m.operation.forgets then []
      else r.prefetches name ++ ((r.lap m).prefetched? name).toList :=
  filterMap_recent_next (Lap.prefetched? name) m r

theorem executions_next (name : String) (m : Moment) (r : Run σ) :
    (r.next m).executions name =
      if m.operation.forgets then []
      else r.executions name ++ ((r.lap m).executed? name).toList :=
  filterMap_recent_next (Lap.executed? name) m r

theorem getLast?_append_toList (items : List α) (last : Option α) :
    (items ++ last.toList).getLast? = last.or items.getLast? := by
  cases last <;> simp

theorem prefetched_eq (r : Run σ) (name : String) :
    r.client.cache.prefetched[name]? = (r.prefetches name).getLast? := by
  induction r using Run.induction with
  | start store contents configuration =>
    have empty := Client.cache_start store contents configuration
    simp [client, Client.after, start, empty, prefetches, recent, laps, Client.laps]
  | next r m ih =>
    rw [client_next, prefetches_next]
    cases forgets : m.operation.forgets with
    | true =>
      have cleared : (r.client.act m).client.cache = {} := (r.lap m).cache_of_forgets forgets
      simp [cleared]
    | false =>
      have stepped := (r.lap m).prefetched_step forgets name
      rw [if_neg Bool.false_ne_true, getLast?_append_toList, ← ih]
      exact stepped

theorem loads_iff (r : Run σ) (name : String) :
    r.client.cache.loads name = true ↔ name ≠ "" ∧ r.prefetches name = [] := by
  rw [Cache.loads_iff, prefetched_eq, List.getLast?_eq_none_iff]

theorem loaded_eq (r : Run σ) (name : String) :
    r.client.cache.loaded[name]? =
      if name ≠ "" ∧ r.prefetches name = [] then
        (r.executions name).getLast?.map MboxContent.trimmed
      else none := by
  induction r using Run.induction with
  | start store contents configuration =>
    have empty := Client.cache_start store contents configuration
    simp [client, Client.after, start, empty, prefetches, executions, recent, laps, Client.laps]
  | next r m ih =>
    rw [client_next, prefetches_next, executions_next]
    cases forgets : m.operation.forgets with
    | true =>
      have cleared : (r.client.act m).client.cache = {} := (r.lap m).cache_of_forgets forgets
      simp [cleared]
    | false =>
      have stepped : (r.client.act m).client.cache.loaded[name]? =
          if ((r.lap m).prefetched? name).isSome then none
          else if r.client.cache.loads name then
            (((r.lap m).executed? name).map MboxContent.trimmed).or r.client.cache.loaded[name]?
          else r.client.cache.loaded[name]? := (r.lap m).loaded_step forgets name
      rw [stepped, if_neg Bool.false_ne_true, if_neg Bool.false_ne_true]
      cases (r.lap m).prefetched? name with
      | some mbox => simp
      | none =>
        -- Nothing was prefetched under the name, so the condition on the history stays as it was.
        rw [ih, Option.toList_none, List.append_nil, getLast?_append_toList]
        by_cases loads : name ≠ "" ∧ r.prefetches name = []
        · simp only [(r.loads_iff name).mpr loads, if_pos loads]
          cases (r.lap m).executed? name <;> simp
        · have not_loads : r.client.cache.loads name = false := by
            rw [← Bool.not_eq_true, r.loads_iff name]
            exact loads
          simp [not_loads, loads]

theorem exists_returned_of_prefetched (r : Run σ) {name : String} {mbox : MboxContent}
    (held : r.client.cache.prefetched[name]? = some mbox) :
    ∃ l : Lap, l.prefetched? name = some mbox := by
  rw [prefetched_eq] at held
  obtain ⟨l, -, returned⟩ := List.mem_filterMap.mp (List.mem_of_getLast? held)
  exact ⟨l, returned⟩

theorem exists_returned_of_loaded (r : Run σ) {name : String} {mbox : MboxContent}
    (held : r.client.cache.loaded[name]? = some mbox) :
    name ≠ "" ∧ r.prefetches name = [] ∧
      ∃ (l : Lap) (full : MboxContent), l.executed? name = some full ∧ full.trimmed = mbox := by
  rw [loaded_eq] at held
  obtain ⟨⟨says_something, none_prefetched⟩, held⟩ := Option.ite_none_right_eq_some.mp held
  obtain ⟨full, last, trimmed_eq⟩ := Option.map_eq_some_iff.mp held
  obtain ⟨l, -, returned⟩ := List.mem_filterMap.mp (List.mem_of_getLast? last)
  exact ⟨says_something, none_prefetched, l, full, returned, trimmed_eq⟩

/-- **Content is what the service returned last.** Since the visitor was last forgotten, each name
holds, prefetched, the mbox that a prefetch returned last under it, and loaded, if it says something
and no prefetch returned it, the mbox that an execute returned last under it, trimmed to its name
and metrics. So no name is in both halves, and every mbox stands under its own name. Replies with an
error, answers that are none, and reports of displays and clicks change nothing. -/
theorem content_is_last_returned (r : Run σ) :
    (∀ name : String, r.client.cache.prefetched[name]? = (r.prefetches name).getLast?) ∧
    (∀ name : String, r.client.cache.loaded[name]? =
      if name ≠ "" ∧ r.prefetches name = [] then
        (r.executions name).getLast?.map MboxContent.trimmed
      else none) ∧
    (∀ name : String,
      r.client.cache.prefetched[name]? = none ∨ r.client.cache.loaded[name]? = none) ∧
    (∀ (name : String) (mbox : MboxContent),
      r.client.cache.prefetched[name]? = some mbox ∨ r.client.cache.loaded[name]? = some mbox →
      mbox.get? "name" = some (.string name)) ∧
    (∀ (name : String) (mbox : MboxContent), r.client.cache.loaded[name]? = some mbox →
      name ≠ "" ∧ ∀ field ∈ mbox, field.1 = "name" ∨ field.1 = "metrics") ∧
    (∀ m, m.operation.forgets = false →
      ((r.lap m).success? = none ∨
        ∀ call, m.operation = .call call → call.kind = .displayed ∨ call.kind = .clicked) →
      (r.next m).client.cache = r.client.cache) := by
  refine ⟨r.prefetched_eq, r.loaded_eq, ?_, ?_, ?_, ?_⟩
  · intro name
    cases held : r.client.cache.loaded[name]? with
    | none => exact .inr rfl
    | some mbox =>
      obtain ⟨-, none_prefetched, -⟩ := r.exists_returned_of_loaded held
      rw [prefetched_eq, none_prefetched]
      exact .inl rfl
  · rintro name mbox (held | held)
    · obtain ⟨l, returned⟩ := r.exists_returned_of_prefetched held
      exact Lap.name_of_prefetched? returned
    · obtain ⟨-, -, l, full, returned, rfl⟩ := r.exists_returned_of_loaded held
      rw [MboxContent.get?_trimmed, if_pos (.inl rfl)]
      exact Lap.name_of_executed? returned
  · intro name mbox held
    obtain ⟨says_something, -, _, full, -, rfl⟩ := r.exists_returned_of_loaded held
    exact ⟨says_something, fun field among => (MboxContent.mem_trimmed.mp among).2⟩
  · intro m remembers no_content
    rw [client_next]
    exact (r.lap m).cache_of_no_content remembers no_content

end Run

end ContentDelivery
