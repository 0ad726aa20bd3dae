/-
ContentDelivery.Content.Cache — the content that is held between calls.

Prefetched mboxes are held whole, since they may be displayed later.
Loaded mboxes are those that were displayed at once; of these only what
clicks need is held, and none whose name was prefetched. A name that is
prefetched leaves the loaded ones.
-/
import ContentDelivery.Content.Mbox

namespace ContentDelivery

structure Cache where
  prefetched : ContentMap := ∅
  loaded : ContentMap := ∅

namespace Cache

def empty : Cache := {}

def putPrefetched (name : String) (mbox : MboxContent) (c : Cache) : Cache where
  prefetched := c.prefetched.insert name mbox
  loaded := c.loaded.erase name

/-- Mboxes without a name, and those that are prefetched, are passed over. -/
def putLoaded (name : String) (mbox : MboxContent) (c : Cache) : Cache :=
  if name.isEmpty || c.prefetched.contains name then c
  else { c with loaded := c.loaded.insert name mbox.trimmed }

def addPrefetched (returned : ContentMap) (c : Cache) : Cache :=
  returned.toList.foldl (fun c (name, mbox) => c.putPrefetched name mbox) c

def addLoaded (returned : ContentMap) (c : Cache) : Cache :=
  returned.toList.foldl (fun c (name, mbox) => c.putLoaded name mbox) c

/-- The content under a name, wherever it is held; both hold no name at once. -/
def find? (name : String) (c : Cache) : Option MboxContent :=
  (c.prefetched[name]?).or c.loaded[name]?

end Cache

end ContentDelivery
