/-
ContentDelivery.Proofs.StringMap — what is found in a map of strings.

A map that is put over another decides where it has a key
(`getElem?_overlay`); so an overlay may be bracketed either way, the
empty map adds nothing, and a map over itself is itself. A map that is
made from entries with different keys holds exactly these entries
(`getElem?_ofList_eq_some`), in whatever order they come.
-/
import ContentDelivery.StringMap

namespace ContentDelivery.StringMap

/-! ## Maps over maps -/

theorem getElem?_overlay (base top : StringMap) (key : String) :
    (base.overlay top)[key]? = top[key]?.or base[key]? := by
  unfold overlay
  cases held : top[key]? with
  | some value =>
    have listed := Std.ExtTreeMap.mem_toList_iff_getElem?_eq_some.mpr held
    exact Std.ExtTreeMap.getElem?_insertMany_list_of_mem Std.ReflCmp.compare_self
      Std.ExtTreeMap.distinct_keys_toList listed
  | none =>
    have not_listed : (top.toList.map Prod.fst).contains key = false := by
      rw [Std.ExtTreeMap.map_fst_toList_eq_keys, List.contains_eq_mem, decide_eq_false_iff_not,
        Std.ExtTreeMap.mem_keys, ← Std.ExtTreeMap.isSome_getElem?_iff_mem, held]
      exact Bool.false_ne_true
    exact Std.ExtTreeMap.getElem?_insertMany_list_of_contains_eq_false not_listed

theorem empty_overlay (m : StringMap) : overlay ∅ m = m := by
  refine Std.ExtTreeMap.ext_getElem? fun key => ?_
  rw [getElem?_overlay, Std.ExtTreeMap.getElem?_empty, Option.or_none]

theorem overlay_assoc (bottom middle top : StringMap) :
    (bottom.overlay middle).overlay top = bottom.overlay (middle.overlay top) := by
  refine Std.ExtTreeMap.ext_getElem? fun key => ?_
  simp only [getElem?_overlay, Option.or_assoc]

theorem overlay_self (m : StringMap) : m.overlay m = m := by
  refine Std.ExtTreeMap.ext_getElem? fun key => ?_
  rw [getElem?_overlay, Option.or_self]

/-! ## Maps of entries -/

theorem nodup_keys (m : StringMap) : (m.toList.map Prod.fst).Nodup := by
  rw [Std.ExtTreeMap.map_fst_toList_eq_keys]
  exact Std.ExtTreeMap.nodup_keys

theorem distinct_of_nodup {entries : List (String × String)}
    (nodup : (entries.map Prod.fst).Nodup) :
    entries.Pairwise fun first second => ¬compare first.1 second.1 = .eq :=
  (List.pairwise_map.mp nodup).imp fun differ same => differ (Std.LawfulEqCmp.eq_of_compare same)

theorem getElem?_ofList_eq_some {entries : List (String × String)}
    (nodup : (entries.map Prod.fst).Nodup) {key value : String} :
    (Std.ExtTreeMap.ofList entries : StringMap)[key]? = some value ↔ (key, value) ∈ entries := by
  have distinct := distinct_of_nodup nodup
  constructor
  · intro found
    by_cases known : key ∈ entries.map Prod.fst
    · obtain ⟨⟨_, other⟩, listed, rfl⟩ := List.mem_map.mp known
      have held := Std.ExtTreeMap.getElem?_ofList_of_mem Std.ReflCmp.compare_self distinct listed
      obtain rfl := Option.some.inj (held.symm.trans found)
      exact listed
    · have unlisted : (entries.map Prod.fst).contains key = false := by simpa using known
      have absent : (Std.ExtTreeMap.ofList entries : StringMap)[key]? = none :=
        Std.ExtTreeMap.getElem?_ofList_of_contains_eq_false unlisted
      cases absent.symm.trans found
  · exact Std.ExtTreeMap.getElem?_ofList_of_mem Std.ReflCmp.compare_self distinct

/-- The order of entries with different keys does not matter. -/
theorem ofList_perm {first second : List (String × String)} (perm : first.Perm second)
    (nodup : (first.map Prod.fst).Nodup) :
    (Std.ExtTreeMap.ofList first : StringMap) = Std.ExtTreeMap.ofList second := by
  have nodup' : (second.map Prod.fst).Nodup := (perm.map Prod.fst).nodup nodup
  refine Std.ExtTreeMap.ext_getElem? fun key => Option.ext fun value => ?_
  rw [getElem?_ofList_eq_some nodup, getElem?_ofList_eq_some nodup', perm.mem_iff]

theorem ofList_toList (m : StringMap) : Std.ExtTreeMap.ofList m.toList = m := by
  refine Std.ExtTreeMap.ext_getElem? fun key => Option.ext fun value => ?_
  rw [getElem?_ofList_eq_some m.nodup_keys, Std.ExtTreeMap.mem_toList_iff_getElem?_eq_some]

end ContentDelivery.StringMap
