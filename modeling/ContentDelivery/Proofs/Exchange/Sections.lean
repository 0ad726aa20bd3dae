/-
ContentDelivery.Proofs.Exchange.Sections — which mboxes a section of a reply holds.

A section of a reply lists its mboxes in an array. Anything may be listed;
an mbox is an object with a string as its name. `mboxes_hold_last` says
that a section holds, under each name, the last mbox of that name and
nothing else. So what is listed but is no mbox might as well not be
listed. Where a part on the way to the array is missing or of another type
nothing is listed, and the section holds no mbox.
-/
import ContentDelivery.Proofs.Content.Merging
import ContentDelivery.Proofs.Json.Fields

namespace ContentDelivery

namespace Json

/-- An item is an mbox: an object with a string as its name. -/
structure IsMbox (name : String) (item : Json) (mbox : MboxContent) : Prop where
  object : item = .object mbox
  named : mbox.get? "name" = some (.string name)

/-- The mbox that an item is, if it is one of this name. -/
def mbox? (name : String) (item : Json) : Option MboxContent :=
  if item.stringField? "name" = some name then item.asObject? else none

theorem mbox?_eq_some {item : Json} {name : String} {mbox : MboxContent} :
    item.mbox? name = some mbox ↔ item.IsMbox name mbox := by
  rw [mbox?, Option.ite_none_right_eq_some, stringField?_eq_some, asObject?_eq_some]
  constructor
  · rintro ⟨⟨fields, rfl, named⟩, object⟩
    cases object
    exact ⟨rfl, named⟩
  · rintro ⟨rfl, named⟩
    exact ⟨⟨mbox, rfl, named⟩, rfl⟩

end Json

namespace DeliveryReply

/-- A section of a reply is an object that lists these items as its mboxes. -/
def Lists (r : DeliveryReply) (sectionName : String) (items : List Json) : Prop :=
  ∃ content : Json.Fields, r.body.get? sectionName = some (.object content) ∧
    content.get? "mboxes" = some (.array items)

variable {r : DeliveryReply} {sectionName : String} {items : List Json}

theorem named_eq (r : DeliveryReply) (sectionName name : String) :
    r.named sectionName name = (r.items sectionName).filterMap (Json.mbox? name) := rfl

theorem items_of_lists (listed : r.Lists sectionName items) : r.items sectionName = items := by
  obtain ⟨content, is_section, listed⟩ := listed
  rw [DeliveryReply.items, is_section, Option.map_some, Option.getD_some,
    Json.itemsOf_of_listed listed]

theorem items_of_lists_nothing (nothing : ∀ items, ¬r.Lists sectionName items) :
    r.items sectionName = [] := by
  unfold DeliveryReply.items
  cases is_section : r.body.get? sectionName with
  | none => rfl
  | some content =>
    refine Json.itemsOf_of_unlisted ?_
    rintro fields items rfl listed
    exact nothing items ⟨fields, is_section, listed⟩

theorem getElem?_mboxes_of_lists (listed : r.Lists sectionName items) {name : String}
    {mbox : MboxContent} :
    (r.mboxes sectionName)[name]? = some mbox ↔ IsLast (Json.IsMbox name) items mbox := by
  rw [getElem?_mboxes, named_eq, items_of_lists listed]
  exact (isLast_iff fun _ _ => Json.mbox?_eq_some).symm

theorem mboxes_of_lists_nothing (nothing : ∀ items, ¬r.Lists sectionName items) :
    r.mboxes sectionName = ∅ := by
  refine Std.ExtTreeMap.ext_getElem? fun {name} => ?_
  rw [getElem?_mboxes, named_eq, items_of_lists_nothing nothing, Std.ExtTreeMap.getElem?_empty]
  rfl

/-- **The last mbox of a name**: a section that lists its mboxes in an array holds under each name
the last mbox of that name. An item that is no mbox may be left out. A section that lists nothing
holds nothing. -/
theorem mboxes_hold_last (r : DeliveryReply) (sectionName : String) :
    (∀ name mbox, (r.mboxes sectionName)[name]? = some mbox ↔
      ∃ items, r.Lists sectionName items ∧ IsLast (Json.IsMbox name) items mbox) ∧
    (∀ before item after, r.Lists sectionName (before ++ item :: after) →
      (∀ name mbox, ¬item.IsMbox name mbox) →
      ∀ other : DeliveryReply, other.Lists sectionName (before ++ after) →
        other.mboxes sectionName = r.mboxes sectionName) ∧
    ((∀ items, ¬r.Lists sectionName items) → r.mboxes sectionName = ∅) := by
  refine ⟨?_, ?_, mboxes_of_lists_nothing⟩
  · intro name mbox
    constructor
    · intro held
      by_cases lists : ∃ items, r.Lists sectionName items
      · obtain ⟨items, listed⟩ := lists
        exact ⟨items, listed, (getElem?_mboxes_of_lists listed).mp held⟩
      · rw [mboxes_of_lists_nothing (not_exists.mp lists), Std.ExtTreeMap.getElem?_empty] at held
        cases held
    · rintro ⟨items, listed, last⟩
      exact (getElem?_mboxes_of_lists listed).mpr last
  · intro before item after listed no_mbox other other_listed
    refine Std.ExtTreeMap.ext_getElem? fun {name} => Option.ext fun mbox => ?_
    rw [getElem?_mboxes_of_lists other_listed, getElem?_mboxes_of_lists listed]
    exact (isLast_without (no_mbox name)).symm

/-- A name that is repeated, with an item of another type and one without a name beside it, and a
section that is missing. -/
theorem mboxes_hold_last_of_repeated_name :
    let earlier : MboxContent := [("name", .string "hero"), ("state", .string "earlier")]
    let later : MboxContent := [("name", .string "hero"), ("state", .string "later")]
    let nameless : Json := .object [("state", .string "nameless")]
    let reply (items : List Json) : DeliveryReply :=
      { status := 200, body := [("prefetch", .object [("mboxes", .array items)])] }
    let r := reply [.object earlier, .null, .object later, nameless]
    r.Lists "prefetch" [.object earlier, .null, .object later, nameless] ∧
    (∀ name mbox, ¬nameless.IsMbox name mbox) ∧
    (∀ items, ¬r.Lists "execute" items) ∧
    (r.mboxes "prefetch")["hero"]? = some later ∧
    (reply [.object earlier, .null, .object later]).mboxes "prefetch" = r.mboxes "prefetch" ∧
    r.mboxes "execute" = ∅ := by
  intro earlier later nameless reply r
  have listed : r.Lists "prefetch" [.object earlier, .null, .object later, nameless] :=
    ⟨_, rfl, rfl⟩
  have no_mbox : ∀ name mbox, ¬nameless.IsMbox name mbox := by
    rintro name mbox ⟨object, named⟩
    obtain rfl : [("state", Json.string "nameless")] = mbox := Json.object.inj object
    cases named
  have nothing : ∀ items, ¬r.Lists "execute" items := by
    rintro items ⟨content, missing, -⟩
    cases missing
  obtain ⟨holds, without, -⟩ := mboxes_hold_last r "prefetch"
  obtain ⟨-, -, empty⟩ := mboxes_hold_last r "execute"
  refine ⟨listed, no_mbox, nothing, (holds "hero" later).mpr ⟨_, listed, ?_⟩, ?_, empty nothing⟩
  · refine .later (.later (.here ⟨rfl, rfl⟩ ?_))
    intro item among other
    obtain rfl := List.mem_singleton.mp among
    exact no_mbox "hero" other
  · exact without [.object earlier, .null, .object later] nameless [] listed no_mbox _ ⟨_, rfl, rfl⟩

end DeliveryReply

end ContentDelivery
