/-
ContentDelivery.Host.StoreHandles — handles to storages in memory.

A new handle leads to a storage of its own, empty at first; a copy of a
handle leads to the storage of the handle that was copied. Handles are
numbered in the order in which they were made. A handle that was never
made can neither be read, written nor copied.
-/
import ContentDelivery.Host.KeyValueStore

namespace ContentDelivery

structure StoreHandles where
  storages : List Storage
  /-- The number of the storage that each handle leads to. -/
  targets : List Nat
deriving DecidableEq

namespace StoreHandles

/-- No handles at all. -/
def empty : StoreHandles := { storages := [], targets := [] }

/-- A handle to a new storage, with the number of the handle. -/
def new (hs : StoreHandles) : StoreHandles × Nat :=
  ({ storages := hs.storages ++ [∅], targets := hs.targets ++ [hs.storages.length] },
    hs.targets.length)

/-- One more handle to the storage of another one, with the number of the handle. -/
def clone? (handle : Nat) (hs : StoreHandles) : Option (StoreHandles × Nat) :=
  hs.targets[handle]?.map fun target =>
    ({ hs with targets := hs.targets ++ [target] }, hs.targets.length)

/-- What a handle leads to. -/
def storage? (handle : Nat) (hs : StoreHandles) : Option Storage :=
  hs.targets[handle]?.bind fun target => hs.storages[target]?

def write? (handle : Nat) (w : StoreEdit) (hs : StoreHandles) : Option StoreHandles :=
  hs.targets[handle]?.map fun target =>
    { hs with storages := hs.storages.modify target (Storage.write w) }

end StoreHandles

end ContentDelivery
