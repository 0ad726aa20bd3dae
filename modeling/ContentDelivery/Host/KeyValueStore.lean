/-
ContentDelivery.Host.KeyValueStore — the store that the host keeps state in.

A store holds strings and whole numbers under string keys. It answers
reads of either type, where a value of the other type reads as missing,
and takes writes. `KeyValueStore.memory` does so faithfully;
`KeyValueStore.broken` finds nothing and drops every write.
-/
import Std.Data.ExtTreeMap

namespace ContentDelivery

inductive StoredValue where
  | string (value : String)
  | integer (value : Int64)
deriving DecidableEq

/-- A change of a store. -/
inductive StoreEdit where
  | setString (key value : String)
  | setInteger (key : String) (value : Int64)
  | remove (key : String)
deriving DecidableEq

/-- The values that a store holds. -/
abbrev Storage := Std.ExtTreeMap String StoredValue

/-- A store whose state is of type `σ`, as its users see it. -/
structure KeyValueStore (σ : Type u) where
  getString? : σ → String → Option String
  getInteger? : σ → String → Option Int64
  write : StoreEdit → σ → σ

namespace StoreEdit

def key : StoreEdit → String
  | setString key _ | setInteger key _ | remove key => key

/-- The value that a write leaves under its key. -/
def value? : StoreEdit → Option StoredValue
  | setString _ value => some (.string value)
  | setInteger _ value => some (.integer value)
  | remove _ => none

/-- The string that is read under the key of a write afterwards. -/
def string? : StoreEdit → Option String
  | setString _ value => some value
  | setInteger _ _ | remove _ => none

/-- The whole number that is read under the key of a write afterwards. -/
def integer? : StoreEdit → Option Int64
  | setInteger _ value => some value
  | setString _ _ | remove _ => none

/-! Equation lemmas by kind of write, so that a write that is not known yet stays folded. -/
@[simp] theorem key_setString (key value : String) : (setString key value).key = key := rfl
@[simp] theorem key_setInteger (key : String) (value : Int64) :
    (setInteger key value).key = key := rfl
@[simp] theorem key_remove (key : String) : (remove key).key = key := rfl
@[simp] theorem string?_setString (key value : String) :
    (setString key value).string? = some value := rfl
@[simp] theorem string?_setInteger (key : String) (value : Int64) :
    (setInteger key value).string? = none := rfl
@[simp] theorem string?_remove (key : String) : (remove key).string? = none := rfl
@[simp] theorem integer?_setString (key value : String) :
    (setString key value).integer? = none := rfl
@[simp] theorem integer?_setInteger (key : String) (value : Int64) :
    (setInteger key value).integer? = some value := rfl
@[simp] theorem integer?_remove (key : String) : (remove key).integer? = none := rfl

end StoreEdit

namespace Storage

def getString? (s : Storage) (key : String) : Option String :=
  match s[key]? with
  | some (.string value) => some value
  | _ => none

def getInteger? (s : Storage) (key : String) : Option Int64 :=
  match s[key]? with
  | some (.integer value) => some value
  | _ => none

def write : StoreEdit → Storage → Storage
  | .setString key value, s => s.insert key (.string value)
  | .setInteger key value, s => s.insert key (.integer value)
  | .remove key, s => s.erase key

/-- A write decides what its key holds and leaves the other keys alone. -/
theorem getElem?_write (w : StoreEdit) (s : Storage) (key : String) :
    (s.write w)[key]? = if w.key = key then w.value? else s[key]? := by
  cases w <;> grind [write, StoreEdit.key, StoreEdit.value?]

theorem getString?_write (w : StoreEdit) (s : Storage) (key : String) :
    (s.write w).getString? key = if w.key = key then w.string? else s.getString? key := by
  unfold getString?
  rw [getElem?_write]
  by_cases h : w.key = key
  · rw [if_pos h, if_pos h]
    cases w <;> rfl
  · rw [if_neg h, if_neg h]

theorem getInteger?_write (w : StoreEdit) (s : Storage) (key : String) :
    (s.write w).getInteger? key = if w.key = key then w.integer? else s.getInteger? key := by
  unfold getInteger?
  rw [getElem?_write]
  by_cases h : w.key = key
  · rw [if_pos h, if_pos h]
    cases w <;> rfl
  · rw [if_neg h, if_neg h]

end Storage

namespace KeyValueStore

/-- A store that works. -/
def memory : KeyValueStore Storage where
  getString? := Storage.getString?
  getInteger? := Storage.getInteger?
  write := Storage.write

/-- A store that finds nothing and drops every write. -/
def broken : KeyValueStore σ where
  getString? _ _ := none
  getInteger? _ _ := none
  write _ s := s

/-- The state after some writes, in their order. -/
def writeAll (store : KeyValueStore σ) (writes : List StoreEdit) (s : σ) : σ :=
  writes.foldl (fun s w => store.write w s) s

/-- A read of either type answers what the last write under the key left for that type; writes
under other keys do not show. -/
structure Faithful (store : KeyValueStore σ) : Prop where
  getString?_write : ∀ (w : StoreEdit) (s : σ) (key : String),
    store.getString? (store.write w s) key =
      if w.key = key then w.string? else store.getString? s key
  getInteger?_write : ∀ (w : StoreEdit) (s : σ) (key : String),
    store.getInteger? (store.write w s) key =
      if w.key = key then w.integer? else store.getInteger? s key

theorem memory_faithful : memory.Faithful where
  getString?_write := Storage.getString?_write
  getInteger?_write := Storage.getInteger?_write

@[simp] theorem writeAll_nil (store : KeyValueStore σ) (s : σ) : store.writeAll [] s = s := rfl

@[simp] theorem writeAll_cons (store : KeyValueStore σ) (w : StoreEdit) (writes : List StoreEdit)
    (s : σ) : store.writeAll (w :: writes) s = store.writeAll writes (store.write w s) := rfl

@[simp] theorem writeAll_append (store : KeyValueStore σ) (first second : List StoreEdit) (s : σ) :
    store.writeAll (first ++ second) s = store.writeAll second (store.writeAll first s) :=
  List.foldl_append

end KeyValueStore

end ContentDelivery
