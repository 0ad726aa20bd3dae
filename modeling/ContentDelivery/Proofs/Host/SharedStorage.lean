/-
ContentDelivery.Proofs.Host.SharedStorage — what is read through a handle.

Handles share a storage if one was copied from the other, directly or by
way of further handles (`Shares`). `reads_last_edit`: whatever was done
with any number of handles, a read of a key tells the last edit of that
key which was made through a handle that shares the storage. It tells
nothing else: a value of the other type and a removal both read as
missing, and what does not edit the key through such a handle might as
well not have been done.

Which handles share a storage is said from the operations alone. That
the numbers of their storages tell the same is part of the invariant
`Keeps`. The other part is that a storage is what the writes through the
handles that lead to it made of an empty one.
-/
import ContentDelivery.Host.StoreHandles
import ContentDelivery.Proofs.LastWrite
import Mathlib.Data.List.Induction
import Mathlib.Logic.Relation

namespace ContentDelivery

namespace StoreEdit

theorem eq_of_value? {v w : StoreEdit} (same_key : v.key = w.key) (same_value : v.value? = w.value?) :
    v = w := by
  cases v <;> cases w <;> simp_all [key, value?]

theorem exists_value?_iff {w : StoreEdit} :
    (∃ value, w.value? = some value) ↔ w ≠ .remove w.key := by
  cases w <;> simp [value?]

end StoreEdit

namespace Storage

theorem getString?_eq_some {s : Storage} {key text : String} :
    s.getString? key = some text ↔ s[key]? = some (.string text) := by
  unfold getString?
  cases s[key]? with
  | none => simp
  | some value => cases value <;> simp

theorem getInteger?_eq_some {s : Storage} {key : String} {number : Int64} :
    s.getInteger? key = some number ↔ s[key]? = some (.integer number) := by
  unfold getInteger?
  cases s[key]? with
  | none => simp
  | some value => cases value <;> simp

/-- In the end a key holds what its last edit left. -/
theorem getElem?_writeAll (edits : List StoreEdit) (key : String) :
    (KeyValueStore.memory.writeAll edits ∅)[key]? =
      ((edits.filter fun w => w.key = key).getLast?).bind StoreEdit.value? := by
  have folded := view_foldl (fun (s : Storage) w => s.write w) (fun s => s[key]?)
    (fun w => if w.key = key then some w.value? else none)
    (by
      intro s w
      rw [getElem?_write]
      split <;> rfl)
    edits ∅
  have written : edits.filterMap (fun w => if w.key = key then some w.value? else none) =
      (edits.filter fun w => w.key = key).map StoreEdit.value? := by
    rw [← List.filterMap_eq_map, List.filterMap_filter]
    simp only [decide_eq_true_eq, Function.comp_apply]
  refine folded.trans ?_
  rw [written, List.getLast?_map, Std.ExtTreeMap.getElem?_empty]
  cases (edits.filter fun w => w.key = key).getLast? <;> rfl

end Storage

namespace StoreHandles

/-! ## Operations -/

/-- What can be done with handles. -/
inductive Operation where
  | new
  | clone (handle : Nat)
  | write (handle : Nat) (w : StoreEdit)
  | read (handle : Nat) (key : String)
deriving DecidableEq

namespace Operation

/-- The handle that an operation is done with. -/
def handle? : Operation → Option Nat
  | new => none
  | clone handle | write handle _ | read handle _ => some handle

/-- The origin of the handle that an operation makes, if it makes one: the handle that is copied, or
none for a new one. -/
def made? : Operation → Option (Option Nat)
  | new => some none
  | clone handle => some (some handle)
  | write _ _ | read _ _ => none

def perform? : Operation → StoreHandles → Option StoreHandles
  | new, hs => some hs.new.1
  | clone handle, hs => (hs.clone? handle).map Prod.fst
  | write handle w, hs => hs.write? handle w
  | read handle _, hs => (hs.storage? handle).map fun _ => hs

/-- What an operation writes to a storage, where `targets` are the numbers of the storages that the
handles lead to. -/
def writesTo? (targets : List Nat) (target : Nat) : Operation → Option StoreEdit
  | write handle w => if targets[handle]? = some target then some w else none
  | new | clone _ | read _ _ => none

end Operation

/-- What operations write to a storage, in their order. -/
def writesTo (targets : List Nat) (target : Nat) (operations : List Operation) : List StoreEdit :=
  operations.filterMap (Operation.writesTo? targets target)

/-- What operations make of no handles at all, if each of them is done with a handle that there
is. -/
def run? (operations : List Operation) : Option StoreHandles :=
  operations.foldlM (fun hs operation => operation.perform? hs) empty

/-- The origins of the handles that are made, in the order in which they are made. -/
def origins (operations : List Operation) : List (Option Nat) :=
  operations.filterMap Operation.made?

/-- Each operation is done with a handle that was made before, where there are `made` handles at
first. -/
def IsPossibleFrom (made : Nat) : List Operation → Prop
  | [] => True
  | operation :: rest =>
    (∀ handle ∈ operation.handle?, handle < made) ∧
      IsPossibleFrom (made + operation.made?.toList.length) rest

/-- Each operation is done with a handle that was made before. -/
def IsPossible (operations : List Operation) : Prop := IsPossibleFrom 0 operations

def decideIsPossibleFrom (made : Nat) :
    (operations : List Operation) → Decidable (IsPossibleFrom made operations)
  | [] => .isTrue trivial
  | operation :: rest =>
    have := decideIsPossibleFrom (made + operation.made?.toList.length) rest
    inferInstanceAs (Decidable (_ ∧ _))

instance (operations : List Operation) : Decidable (IsPossible operations) :=
  decideIsPossibleFrom 0 operations

/-- A handle was made as a copy of another one. -/
def IsCopy (operations : List Operation) (copy handle : Nat) : Prop :=
  (origins operations)[copy]? = some (some handle)

/-- Two handles share a storage: copies lead from one to the other. -/
def Shares (operations : List Operation) : Nat → Nat → Prop :=
  Relation.EqvGen (IsCopy operations)

/-- An operation edits a key through a handle or through one that shares its storage. -/
inductive Edits (operations : List Operation) (handle : Nat) (key : String) :
    Operation → StoreEdit → Prop
  | write {other : Nat} {w : StoreEdit} (shares : Shares operations handle other)
      (key_eq : w.key = key) : Edits operations handle key (.write other w) w

/-- The last edit of a key through a handle or through one that shares its storage. -/
def IsLastEdit (operations : List Operation) (handle : Nat) (key : String) : StoreEdit → Prop :=
  IsLast (Edits operations handle key) operations

/-! ## One operation more -/

variable {operations : List Operation} {last : Operation}

theorem run?_concat : run? (operations ++ [last]) = (run? operations).bind last.perform? := by
  simp [run?, List.foldlM_append]

theorem origins_concat : origins (operations ++ [last]) = origins operations ++ last.made?.toList := by
  cases made : last.made? <;> simp [origins, made]

theorem origins_concat_of_none (makes_none : last.made? = none) :
    origins (operations ++ [last]) = origins operations := by
  rw [origins_concat, makes_none, Option.toList_none, List.append_nil]

theorem writesTo_concat (targets : List Nat) (target : Nat) :
    writesTo targets target (operations ++ [last]) =
      writesTo targets target operations ++ (last.writesTo? targets target).toList := by
  cases written : last.writesTo? targets target <;> simp [writesTo, written]

theorem writesTo_concat_of_none {targets : List Nat} {target : Nat}
    (writes_none : last.writesTo? targets target = none) :
    writesTo targets target (operations ++ [last]) = writesTo targets target operations := by
  rw [writesTo_concat, writes_none, Option.toList_none, List.append_nil]

theorem isPossibleFrom_append {made : Nat} {first second : List Operation} :
    IsPossibleFrom made (first ++ second) ↔
      IsPossibleFrom made first ∧ IsPossibleFrom (made + (origins first).length) second := by
  induction first generalizing made with
  | nil => simp [IsPossibleFrom, origins]
  | cons operation rest ih =>
    have length_origins : (origins (operation :: rest)).length =
        operation.made?.toList.length + (origins rest).length := by
      cases made : operation.made? <;> simp [origins, made, Nat.add_comm]
    rw [List.cons_append, IsPossibleFrom, IsPossibleFrom, ih, length_origins, Nat.add_assoc,
      and_assoc]

theorem isPossible_concat : IsPossible (operations ++ [last]) ↔ IsPossible operations ∧
    ∀ handle ∈ last.handle?, handle < (origins operations).length := by
  unfold IsPossible
  rw [isPossibleFrom_append, IsPossibleFrom, IsPossibleFrom, and_true, Nat.zero_add]

theorem isCopy_concat {copy handle : Nat} (is_copy : IsCopy operations copy handle) :
    IsCopy (operations ++ [last]) copy handle := by
  unfold IsCopy at *
  rw [origins_concat, List.getElem?_append_left (List.getElem?_eq_some_iff.mp is_copy).1, is_copy]

theorem isCopy_concat_of_none (makes_none : last.made? = none) {copy handle : Nat} :
    IsCopy (operations ++ [last]) copy handle ↔ IsCopy operations copy handle := by
  rw [IsCopy, IsCopy, origins_concat_of_none makes_none]

theorem shares_concat {a b : Nat} (shares : Shares operations a b) :
    Shares (operations ++ [last]) a b :=
  Relation.EqvGen.mono (fun _ _ => isCopy_concat) _ _ shares

/-! ## The invariant -/

/-- What the handles and the storages tell of the operations that made them. -/
structure Keeps (operations : List Operation) (hs : StoreHandles) : Prop where
  length_targets : hs.targets.length = (origins operations).length
  target_lt : ∀ {handle target : Nat}, hs.targets[handle]? = some target →
    target < hs.storages.length
  target_of_copy : ∀ {copy handle : Nat}, IsCopy operations copy handle →
    ∃ target, hs.targets[copy]? = some target ∧ hs.targets[handle]? = some target
  shares_of_target : ∀ {a b target : Nat}, hs.targets[a]? = some target →
    hs.targets[b]? = some target → Shares operations a b
  written_lt : ∀ {handle : Nat} {w : StoreEdit}, .write handle w ∈ operations →
    handle < hs.targets.length
  storage : ∀ {target : Nat}, target < hs.storages.length → hs.storages[target]? =
    some (KeyValueStore.memory.writeAll (writesTo hs.targets target operations) ∅)

theorem getElem?_concat_eq_some {items : List α} {item found : α} {i : Nat} :
    (items ++ [item])[i]? = some found ↔
      items[i]? = some found ∨ i = items.length ∧ item = found := by
  grind

namespace Keeps

variable {hs : StoreHandles}

theorem nil : Keeps [] empty where
  length_targets := rfl
  target_lt := by simp [empty]
  target_of_copy := by simp [IsCopy, origins]
  shares_of_target := by simp [empty]
  written_lt := by simp
  storage := by simp [empty]

/-- A handle that is made does not change what the handles before it lead to. -/
theorem writesTo_made (keeps : Keeps operations hs) (target made : Nat) :
    writesTo (hs.targets ++ [made]) target operations = writesTo hs.targets target operations := by
  refine List.filterMap_congr fun operation among => ?_
  cases operation with
  | write handle w =>
    rw [Operation.writesTo?, Operation.writesTo?,
      List.getElem?_append_left (keeps.written_lt among)]
  | new => rfl
  | clone handle => rfl
  | read handle key => rfl

/-- Nothing is written to a storage that there is not. -/
theorem writesTo_length (keeps : Keeps operations hs) :
    writesTo hs.targets hs.storages.length operations = [] := by
  refine List.filterMap_eq_nil_iff.mpr fun operation among => ?_
  cases operation with
  | write handle w =>
    refine if_neg fun led => ?_
    exact Nat.lt_irrefl _ (keeps.target_lt led)
  | new => rfl
  | clone handle => rfl
  | read handle key => rfl

theorem new (keeps : Keeps operations hs) : Keeps (operations ++ [.new]) hs.new.1 where
  length_targets := by simp [StoreHandles.new, origins_concat, Operation.made?, keeps.length_targets]
  target_lt := by
    intro handle target led
    rw [StoreHandles.new, List.length_append, List.length_singleton]
    rcases getElem?_concat_eq_some.mp led with led | ⟨-, rfl⟩
    · exact Nat.lt_succ_of_lt (keeps.target_lt led)
    · exact Nat.lt_succ_self _
  target_of_copy := by
    intro copy handle is_copy
    rw [IsCopy, origins_concat] at is_copy
    rcases getElem?_concat_eq_some.mp is_copy with is_copy | ⟨-, ⟨⟩⟩
    obtain ⟨target, copy_led, handle_led⟩ := keeps.target_of_copy is_copy
    exact ⟨target, getElem?_concat_eq_some.mpr (.inl copy_led),
      getElem?_concat_eq_some.mpr (.inl handle_led)⟩
  shares_of_target := by
    intro a b target a_led b_led
    rcases getElem?_concat_eq_some.mp a_led with a_led | ⟨rfl, rfl⟩ <;>
      rcases getElem?_concat_eq_some.mp b_led with b_led | ⟨rfl, same⟩
    · exact shares_concat (keeps.shares_of_target a_led b_led)
    · exact absurd (keeps.target_lt a_led) (by omega)
    · exact absurd (keeps.target_lt b_led) (by omega)
    · exact .refl _
  written_lt := by
    intro handle w among
    have before := keeps.written_lt (by simpa using among)
    simpa [StoreHandles.new] using Nat.lt_succ_of_lt before
  storage := by
    intro target below
    simp only [StoreHandles.new, List.length_append, List.length_singleton] at below ⊢
    rw [writesTo_concat_of_none rfl, keeps.writesTo_made]
    rcases Nat.lt_succ_iff_lt_or_eq.mp below with below | rfl
    · rw [List.getElem?_append_left below, keeps.storage below]
    · rw [List.getElem?_concat_length, keeps.writesTo_length, KeyValueStore.writeAll_nil]

theorem clone (keeps : Keeps operations hs) {handle target : Nat}
    (led : hs.targets[handle]? = some target) :
    Keeps (operations ++ [.clone handle]) { hs with targets := hs.targets ++ [target] } where
  length_targets := by simp [origins_concat, Operation.made?, keeps.length_targets]
  target_lt := by
    intro other found other_led
    rcases getElem?_concat_eq_some.mp other_led with other_led | ⟨-, rfl⟩
    · exact keeps.target_lt other_led
    · exact keeps.target_lt led
  target_of_copy := by
    intro copy other is_copy
    rw [IsCopy, origins_concat] at is_copy
    rcases getElem?_concat_eq_some.mp is_copy with is_copy | ⟨rfl, ⟨⟩⟩
    · obtain ⟨found, copy_led, other_led⟩ := keeps.target_of_copy is_copy
      exact ⟨found, getElem?_concat_eq_some.mpr (.inl copy_led),
        getElem?_concat_eq_some.mpr (.inl other_led)⟩
    · exact ⟨target, getElem?_concat_eq_some.mpr (.inr ⟨keeps.length_targets.symm, rfl⟩),
        getElem?_concat_eq_some.mpr (.inl led)⟩
  shares_of_target := by
    have made : IsCopy (operations ++ [.clone handle]) hs.targets.length handle := by
      rw [IsCopy, origins_concat, keeps.length_targets]
      exact List.getElem?_concat_length
    intro a b found a_led b_led
    rcases getElem?_concat_eq_some.mp a_led with a_led | ⟨rfl, rfl⟩ <;>
      rcases getElem?_concat_eq_some.mp b_led with b_led | ⟨rfl, same⟩
    · exact shares_concat (keeps.shares_of_target a_led b_led)
    · subst same
      exact .trans _ handle _ (shares_concat (keeps.shares_of_target a_led led))
        (.symm _ _ (.rel _ _ made))
    · exact .trans _ handle _ (.rel _ _ made) (shares_concat (keeps.shares_of_target led b_led))
    · exact .refl _
  written_lt := by
    intro other w among
    have before := keeps.written_lt (by simpa using among)
    simpa using Nat.lt_succ_of_lt before
  storage := by
    intro found below
    rw [writesTo_concat_of_none rfl, keeps.writesTo_made]
    exact keeps.storage below

theorem write (keeps : Keeps operations hs) {handle target : Nat} (w : StoreEdit)
    (led : hs.targets[handle]? = some target) :
    Keeps (operations ++ [.write handle w])
      { hs with storages := hs.storages.modify target (Storage.write w) } where
  length_targets := by rw [origins_concat_of_none rfl, keeps.length_targets]
  target_lt := by
    intro other found other_led
    rw [List.length_modify]
    exact keeps.target_lt other_led
  target_of_copy := fun is_copy => keeps.target_of_copy ((isCopy_concat_of_none rfl).mp is_copy)
  shares_of_target := fun a_led b_led => shares_concat (keeps.shares_of_target a_led b_led)
  written_lt := by
    intro other w' among
    rcases List.mem_append.mp among with among | among
    · exact keeps.written_lt among
    · cases List.mem_singleton.mp among
      exact (List.getElem?_eq_some_iff.mp led).1
  storage := by
    intro found below
    rw [List.length_modify] at below
    have before := keeps.storage below
    by_cases same : target = found
    · subst same
      have written : (Operation.write handle w).writesTo? hs.targets target = some w := if_pos led
      rw [List.getElem?_modify_eq, before, writesTo_concat, written, Option.toList_some,
        KeyValueStore.writeAll_append]
      rfl
    · have led_elsewhere : hs.targets[handle]? ≠ some found := by
        rw [led]
        exact fun eq => same (Option.some.inj eq)
      have not_written : (Operation.write handle w).writesTo? hs.targets found = none :=
        if_neg led_elsewhere
      rw [List.getElem?_modify_ne _ _ same, before, writesTo_concat_of_none not_written]

theorem read (keeps : Keeps operations hs) (handle : Nat) (key : String) :
    Keeps (operations ++ [.read handle key]) hs where
  length_targets := by rw [origins_concat_of_none rfl, keeps.length_targets]
  target_lt := keeps.target_lt
  target_of_copy := fun is_copy => keeps.target_of_copy ((isCopy_concat_of_none rfl).mp is_copy)
  shares_of_target := fun a_led b_led => shares_concat (keeps.shares_of_target a_led b_led)
  written_lt := fun among => keeps.written_lt (by simpa using among)
  storage := by
    intro target below
    rw [writesTo_concat_of_none rfl]
    exact keeps.storage below

/-- An operation can be done with a handle that there is, and keeps the invariant. -/
theorem apply (keeps : Keeps operations hs)
    (made : ∀ handle ∈ last.handle?, handle < (origins operations).length) :
    ∃ after, last.perform? hs = some after ∧ Keeps (operations ++ [last]) after := by
  have led : ∀ handle ∈ last.handle?, ∃ target, hs.targets[handle]? = some target := by
    intro handle is_used
    have below := made handle is_used
    rw [← keeps.length_targets] at below
    exact ⟨_, List.getElem?_eq_getElem below⟩
  cases last with
  | new => exact ⟨_, rfl, keeps.new⟩
  | clone handle =>
    obtain ⟨target, led⟩ := led handle rfl
    exact ⟨_, by simp [Operation.perform?, clone?, led], keeps.clone led⟩
  | write handle w =>
    obtain ⟨target, led⟩ := led handle rfl
    exact ⟨_, by simp [Operation.perform?, write?, led], keeps.write w led⟩
  | read handle key =>
    obtain ⟨target, led⟩ := led handle rfl
    have found := keeps.storage (keeps.target_lt led)
    exact ⟨hs, by simp [Operation.perform?, storage?, led, found], keeps.read handle key⟩

/-! ## What is read -/

/-- Copies lead to the same storage. -/
theorem targets_eq_of_shares (keeps : Keeps operations hs) {a b : Nat}
    (shares : Shares operations a b) : hs.targets[a]? = hs.targets[b]? := by
  induction shares with
  | rel copy handle is_copy =>
    obtain ⟨target, copy_led, handle_led⟩ := keeps.target_of_copy is_copy
    rw [copy_led, handle_led]
  | refl a => rfl
  | symm a b _ ih => exact ih.symm
  | trans a b c _ _ first second => exact first.trans second

theorem shares_iff (keeps : Keeps operations hs) {a b target : Nat}
    (led : hs.targets[a]? = some target) :
    Shares operations a b ↔ hs.targets[b]? = some target :=
  ⟨fun shares => (keeps.targets_eq_of_shares shares).symm.trans led, keeps.shares_of_target led⟩

theorem isLastEdit_iff (keeps : Keeps operations hs) {handle target : Nat}
    (led : hs.targets[handle]? = some target) {key : String} {w : StoreEdit} :
    IsLastEdit operations handle key w ↔
      ((writesTo hs.targets target operations).filter fun w => w.key = key).getLast? = some w := by
  have edits_iff : ∀ operation w,
      ((Operation.writesTo? hs.targets target operation).filter fun w => w.key = key) = some w ↔
        Edits operations handle key operation w := by
    intro operation w
    rw [Option.filter_eq_some_iff, decide_eq_true_eq]
    constructor
    · rintro ⟨written, key_eq⟩
      cases operation with
      | write other other_w =>
        obtain ⟨other_led, same⟩ := Option.ite_none_right_eq_some.mp written
        cases same
        exact .write ((keeps.shares_iff led).mpr other_led) key_eq
      | new => cases written
      | clone other => cases written
      | read other key => cases written
    · rintro ⟨shares, key_eq⟩
      exact ⟨if_pos ((keeps.shares_iff led).mp shares), key_eq⟩
  rw [writesTo, List.filter_filterMap]
  exact isLast_iff edits_iff

/-- A key holds what its last edit left. -/
theorem getElem?_storage (keeps : Keeps operations hs) {handle target : Nat}
    (led : hs.targets[handle]? = some target) {key : String} {value : StoredValue} :
    (KeyValueStore.memory.writeAll (writesTo hs.targets target operations) ∅)[key]? = some value ↔
      ∃ w, IsLastEdit operations handle key w ∧ w.value? = some value := by
  rw [Storage.getElem?_writeAll, Option.bind_eq_some_iff]
  simp only [keeps.isLastEdit_iff led]

end Keeps

theorem exists_run (possible : IsPossible operations) :
    ∃ hs, run? operations = some hs ∧ Keeps operations hs := by
  induction operations using List.reverseRecOn with
  | nil => exact ⟨empty, rfl, .nil⟩
  | append_singleton operations last ih =>
    obtain ⟨possible, made⟩ := isPossible_concat.mp possible
    obtain ⟨hs, ran, keeps⟩ := ih possible
    obtain ⟨after, applied, keeps⟩ := keeps.apply made
    exact ⟨after, by rw [run?_concat, ran, Option.bind_some, applied], keeps⟩

/-- The storage that a handle leads to after some operations. -/
def storageAfter? (handle : Nat) (operations : List Operation) : Option Storage :=
  (run? operations).bind (storage? handle)

/-- What a key holds is what its last edit left. -/
theorem exists_storageAfter (possible : IsPossible operations) {handle : Nat}
    (made : handle < (origins operations).length) :
    ∃ storage, storageAfter? handle operations = some storage ∧ ∀ key value,
      storage[key]? = some value ↔
        ∃ w, IsLastEdit operations handle key w ∧ w.value? = some value := by
  obtain ⟨hs, ran, keeps⟩ := exists_run possible
  obtain ⟨target, led⟩ : ∃ target, hs.targets[handle]? = some target :=
    ⟨_, List.getElem?_eq_getElem (keeps.length_targets ▸ made)⟩
  have found := keeps.storage (keeps.target_lt led)
  exact ⟨_, by simp [storageAfter?, ran, storage?, led, found],
    fun key value => keeps.getElem?_storage led⟩

/-! ## The last edit -/

theorem IsLastEdit.key_eq {handle : Nat} {key : String} {w : StoreEdit}
    (last : IsLastEdit operations handle key w) : w.key = key := by
  obtain ⟨_, _, _, key_eq⟩ := last.exists_given
  exact key_eq

/-- Under its key an edit is told by the value that it leaves. -/
theorem exists_lastEdit_iff {handle : Nat} (w : StoreEdit) :
    (∃ last, IsLastEdit operations handle w.key last ∧ last.value? = w.value?) ↔
      IsLastEdit operations handle w.key w := by
  constructor
  · rintro ⟨last, is_last, same_value⟩
    obtain rfl := StoreEdit.eq_of_value? is_last.key_eq same_value
    exact is_last
  · intro is_last
    exact ⟨w, is_last, rfl⟩

/-! ## Operations that do not matter -/

theorem origins_without {before after : List Operation} {operation : Operation}
    (makes_none : operation.made? = none) :
    origins (before ++ operation :: after) = origins (before ++ after) := by
  simp [origins, List.filterMap_cons_none makes_none]

theorem isPossible_without {before after : List Operation} {operation : Operation}
    (makes_none : operation.made? = none) (possible : IsPossible (before ++ operation :: after)) :
    IsPossible (before ++ after) := by
  obtain ⟨possible_before, -, possible_after⟩ := isPossibleFrom_append.mp possible
  rw [makes_none] at possible_after
  exact isPossibleFrom_append.mpr ⟨possible_before, possible_after⟩

theorem edits_congr {first second : List Operation} (same : origins first = origins second)
    (handle : Nat) (key : String) : Edits first handle key = Edits second handle key := by
  have shares : Shares first = Shares second := by
    unfold Shares IsCopy
    rw [same]
  funext operation w
  refine propext ⟨?_, ?_⟩
  · rintro ⟨shared, key_eq⟩
    exact .write (shares ▸ shared) key_eq
  · rintro ⟨shared, key_eq⟩
    exact .write (shares ▸ shared) key_eq

theorem isLastEdit_without {before after : List Operation} {operation : Operation}
    (makes_none : operation.made? = none) {handle : Nat} {key : String}
    (no_edit : ∀ w, ¬Edits (before ++ operation :: after) handle key operation w) {w : StoreEdit} :
    IsLastEdit (before ++ operation :: after) handle key w ↔
      IsLastEdit (before ++ after) handle key w := by
  unfold IsLastEdit
  rw [isLast_without no_edit, edits_congr (origins_without makes_none)]

/-- **Last write wins**: a handle that was made leads to a storage, where a read of a key tells the
last edit of the key that was made through a handle which shares the storage. An operation that
neither makes a handle nor edits the key there, such as a read, may be left out. -/
theorem reads_last_edit {operations : List Operation} (possible : IsPossible operations)
    {handle : Nat} (made : handle < (origins operations).length) (key : String) :
    ∃ storage, storageAfter? handle operations = some storage ∧
      (∀ text, storage.getString? key = some text ↔
        IsLastEdit operations handle key (.setString key text)) ∧
      (∀ number, storage.getInteger? key = some number ↔
        IsLastEdit operations handle key (.setInteger key number)) ∧
      (storage.contains key = true ↔
        ∃ w, IsLastEdit operations handle key w ∧ w ≠ .remove key) ∧
      ∀ before operation after, operations = before ++ operation :: after →
        operation.made? = none → (∀ w, ¬Edits operations handle key operation w) →
          (storageAfter? handle (before ++ after)).map (·[key]?) = some storage[key]? := by
  obtain ⟨storage, found, holds⟩ := exists_storageAfter possible made
  refine ⟨storage, found, ?_, ?_, ?_, ?_⟩
  · intro text
    rw [Storage.getString?_eq_some, holds]
    exact exists_lastEdit_iff (.setString key text)
  · intro number
    rw [Storage.getInteger?_eq_some, holds]
    exact exists_lastEdit_iff (.setInteger key number)
  · rw [Std.ExtTreeMap.contains_eq_isSome_getElem?, Option.isSome_iff_exists]
    simp only [holds]
    rw [exists_comm]
    refine exists_congr fun w => ?_
    rw [exists_and_left]
    refine and_congr_right fun last => ?_
    rw [StoreEdit.exists_value?_iff, last.key_eq]
  · rintro before operation after rfl makes_none no_edit
    rw [origins_without makes_none] at made
    obtain ⟨other, other_found, other_holds⟩ :=
      exists_storageAfter (isPossible_without makes_none possible) made
    rw [other_found, Option.map_some]
    refine congrArg some (Option.ext fun value => ?_)
    rw [other_holds, holds]
    simp only [isLastEdit_without makes_none no_edit]

/-- A handle and its copy. The number that is written through the copy is read through the handle,
where the text before it is missing now, though another key was edited since. -/
theorem reads_last_edit_of_copy :
    let operations : List Operation :=
      [.new, .write 0 (.setString "key" "text"), .clone 0, .write 1 (.setInteger "key" 7),
        .write 0 (.remove "other"), .read 0 "key"]
    IsPossible operations ∧ 0 < (origins operations).length ∧
    ∃ storage, storageAfter? 0 operations = some storage ∧
      storage.getInteger? "key" = some 7 ∧ storage.getString? "key" = none ∧
      storage.contains "key" = true := by
  intro operations
  have possible : IsPossible operations := by decide
  have made : 0 < (origins operations).length := by decide
  obtain ⟨storage, found, text, integer, contains, -⟩ := reads_last_edit possible made "key"
  have last : IsLastEdit operations 0 "key" (.setInteger "key" 7) := by
    refine .later (.later (.later (.here (.write ?_ rfl) ?_)))
    · exact .symm _ _ (.rel _ _ rfl)
    · rintro later among w ⟨-, key_eq⟩
      obtain ⟨-, rfl⟩ : _ ∧ w = .remove "other" := by simpa using among
      exact absurd key_eq (by decide)
  have held := (integer 7).mpr last
  refine ⟨possible, made, storage, found, held, ?_, contains.mpr ⟨_, last, nofun⟩⟩
  rw [Option.eq_none_iff_forall_ne_some]
  intro other told
  rw [Storage.getInteger?_eq_some] at held
  cases held.symm.trans (Storage.getString?_eq_some.mp told)

end StoreHandles

end ContentDelivery
