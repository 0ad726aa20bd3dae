/-
ContentDelivery.Proofs.Host.Lifecycle — what of lifecycle data is reported, and under which name.

`Lifecycle.reported_exactly`: as long as no name is reported twice, the
context parameters hold what `Reported` says of the lifecycle data and
nothing else, whatever the order of the entries (`collect`). Renaming an
entry never makes a known key of it, because no name in the table is
itself a known key (`name_not_known`). So the context parameters are
reported as they are: to report them again changes nothing.
-/
import ContentDelivery.Host.Lifecycle
import ContentDelivery.Proofs.StringMap
import Mathlib.Data.List.Basic

namespace ContentDelivery.Lifecycle

/-! ## The table -/

/-- The keys that are reported under another name. -/
def knownKeys : List String := contextKeys.map Prod.fst

theorem name_not_known {key name : String} (listed : (key, name) ∈ contextKeys) :
    name ∉ knownKeys := by
  have disjoint : ∀ known ∈ contextKeys, known.2 ∉ knownKeys := by decide
  exact disjoint _ listed

/-- Every known key has one name only. -/
theorem contextName?_eq_some {key name : String} :
    contextName? key = some name ↔ (key, name) ∈ contextKeys := by
  constructor
  · intro found
    obtain ⟨⟨_, _⟩, first, rfl⟩ := Option.map_eq_some_iff.mp found
    have same := List.find?_some first
    rw [beq_iff_eq] at same
    subst same
    exact List.mem_of_find?_eq_some first
  · intro listed
    have named : ∀ known ∈ contextKeys, contextName? known.1 = some known.2 := by decide
    exact named _ listed

theorem contextName?_eq_none {key : String} : contextName? key = none ↔ key ∉ knownKeys := by
  simp only [Option.eq_none_iff_forall_ne_some, ne_eq, contextName?_eq_some, knownKeys,
    List.mem_map, Prod.exists, exists_and_right, exists_eq_right, not_exists]

/-! ## Reports -/

/-- What is reported of lifecycle data: the values of known keys under their names, unless they are
empty, and all other entries as they are. -/
inductive Reported (lifecycle : StringMap) (name value : String) : Prop
  | renamed {key : String} (known : (key, name) ∈ contextKeys)
      (held : lifecycle[key]? = some value) (nonempty : value ≠ "")
  | unchanged (unknown : name ∉ knownKeys) (held : lifecycle[name]? = some value)

theorem report?_of_known {key name : String} (known : (key, name) ∈ contextKeys) (value : String) :
    report? (key, value) = if value.isEmpty then none else some (name, value) := by
  rw [report?, contextName?_eq_some.mpr known]

theorem report?_of_unknown {key : String} (unknown : key ∉ knownKeys) (value : String) :
    report? (key, value) = some (key, value) := by
  rw [report?, contextName?_eq_none.mpr unknown]

/-- Only a known key without a value is not reported. -/
theorem isSome_report? (entry : String × String) :
    (report? entry).isSome = true ↔ entry.1 ∉ knownKeys ∨ entry.2 ≠ "" := by
  obtain ⟨key, value⟩ := entry
  by_cases unknown : key ∈ knownKeys
  · obtain ⟨⟨_, name⟩, known, rfl⟩ := List.mem_map.mp unknown
    rw [report?_of_known known]
    by_cases empty : value = "" <;> simp [unknown, empty]
  · simp [report?_of_unknown unknown, unknown]

theorem mem_reports {lifecycle : StringMap} {name value : String} :
    (name, value) ∈ lifecycle.toList.filterMap report? ↔ Reported lifecycle name value := by
  simp only [List.mem_filterMap, Prod.exists, Std.ExtTreeMap.mem_toList_iff_getElem?_eq_some]
  constructor
  · rintro ⟨key, held_value, held, reported⟩
    by_cases unknown : key ∈ knownKeys
    · obtain ⟨⟨_, known_name⟩, known, rfl⟩ := List.mem_map.mp unknown
      rw [report?_of_known known] at reported
      by_cases empty : held_value = ""
      · simp [empty] at reported
      · simp only [String.isEmpty_iff, empty, if_false, Option.some.injEq,
          Prod.mk.injEq] at reported
        obtain ⟨rfl, rfl⟩ := reported
        exact .renamed known held empty
    · rw [report?_of_unknown unknown] at reported
      cases reported
      exact .unchanged unknown held
  · rintro (⟨known, held, nonempty⟩ | ⟨unknown, held⟩)
    · refine ⟨_, value, held, ?_⟩
      rw [report?_of_known known, if_neg (mt String.isEmpty_iff.mp nonempty)]
    · exact ⟨name, value, held, report?_of_unknown unknown value⟩

/-- No two entries are reported under one name. Keys that are not reported, for they have no value,
do no harm. -/
def Unambiguous (lifecycle : StringMap) : Prop :=
  ((lifecycle.toList.filterMap report?).map Prod.fst).Nodup

instance (lifecycle : StringMap) : Decidable (Unambiguous lifecycle) :=
  inferInstanceAs (Decidable (List.Nodup _))

/-- The context parameters, put together from entries in the order in which they come. -/
def collect (entries : List (String × String)) : StringMap :=
  entries.foldl
    (fun data entry =>
      match report? entry with
      | some (name, value) => data.insert name value
      | none => data)
    ∅

theorem collect_eq_ofList (entries : List (String × String)) :
    collect entries = Std.ExtTreeMap.ofList (entries.filterMap report?) := by
  rw [collect, Std.ExtTreeMap.ofList_eq_foldl, List.foldl_filterMap]
  congr
  funext data entry
  cases report? entry <;> rfl

/-- Known keys are gone once they were reported. -/
theorem not_known_of_mem {lifecycle : StringMap} {name : String}
    (held : name ∈ contextData lifecycle) : name ∉ knownKeys := by
  have listed : name ∈ (lifecycle.toList.filterMap report?).map Prod.fst := by
    rw [contextData, Std.ExtTreeMap.mem_ofList] at held
    simpa using held
  obtain ⟨⟨_, value⟩, reported, rfl⟩ := List.mem_map.mp listed
  rcases mem_reports.mp reported with ⟨known, -, -⟩ | ⟨unknown, -⟩
  · exact name_not_known known
  · exact unknown

theorem contextData_of_unknown {lifecycle : StringMap}
    (unknown : ∀ key ∈ lifecycle, key ∉ knownKeys) : contextData lifecycle = lifecycle := by
  have all_reported : lifecycle.toList.filterMap report? = lifecycle.toList.filterMap some := by
    refine List.filterMap_congr fun entry listed => ?_
    have held : entry.1 ∈ lifecycle := by
      rw [← Std.ExtTreeMap.mem_keys, ← Std.ExtTreeMap.map_fst_toList_eq_keys]
      exact List.mem_map_of_mem listed
    exact report?_of_unknown (unknown _ held) _
  rw [contextData, all_reported, List.filterMap_some, StringMap.ofList_toList]

/-- **Lifecycle data are reported exactly.** If no two entries go under the same name, the context
parameters hold a value under a name if and only if `Reported` says so: there is one for each entry
but for the known keys without a value, and no known key among them. The order in which the entries
are gone through does not matter, and reporting the context parameters themselves gives them
again. -/
theorem reported_exactly {lifecycle : StringMap} (unambiguous : Unambiguous lifecycle) :
    (∀ name value : String, (contextData lifecycle)[name]? = some value ↔
      Reported lifecycle name value) ∧
    (contextData lifecycle).size =
      lifecycle.toList.countP (fun entry => entry.1 ∉ knownKeys ∨ entry.2 ≠ "") ∧
    (∀ key ∈ knownKeys, key ∉ contextData lifecycle) ∧
    (∀ entries : List (String × String), entries.Perm lifecycle.toList →
      collect entries = contextData lifecycle) ∧
    contextData (contextData lifecycle) = contextData lifecycle := by
  refine ⟨fun name value => ?_, ?_, fun key known held => ?_, fun entries perm => ?_, ?_⟩
  · exact (StringMap.getElem?_ofList_eq_some unambiguous).trans mem_reports
  · rw [contextData, Std.ExtTreeMap.size_ofList (StringMap.distinct_of_nodup unambiguous),
      List.length_filterMap_eq_countP]
    refine List.countP_congr fun entry _ => ?_
    rw [isSome_report?, decide_eq_true_iff]
  · exact not_known_of_mem held known
  · have reports_perm := perm.filterMap report?
    have nodup := (reports_perm.map Prod.fst).nodup_iff.mpr unambiguous
    rw [collect_eq_ofList, StringMap.ofList_perm reports_perm nodup]
    rfl
  · exact contextData_of_unknown fun _ => not_known_of_mem

/-- The name of a known key may be a key of its own, if the known key has no value. -/
theorem reported_exactly_with_name_taken :
    let lifecycle : StringMap := Std.ExtTreeMap.ofList
      [("appid", "app"), ("carriername", ""), ("a.CarrierName", "carrier"), ("custom", "")]
    Unambiguous lifecycle ∧ Reported lifecycle "a.AppID" "app" ∧ Reported lifecycle "custom" "" ∧
      (contextData lifecycle)["a.AppID"]? = some "app" ∧
      (contextData lifecycle)["custom"]? = some "" ∧
      collect [("custom", ""), ("carriername", ""), ("appid", "app"),
        ("a.CarrierName", "carrier")] = contextData lifecycle := by
  intro lifecycle
  have unambiguous : Unambiguous lifecycle := by decide +kernel
  obtain ⟨exactly, -, -, any_order, -⟩ := reported_exactly unambiguous
  have known : ("appid", "a.AppID") ∈ contextKeys := by decide
  have app : Reported lifecycle "a.AppID" "app" := .renamed known (by decide +kernel) (by decide)
  have custom : Reported lifecycle "custom" "" := .unchanged (by decide) (by decide +kernel)
  exact ⟨unambiguous, app, custom, (exactly _ _).mpr app, (exactly _ _).mpr custom,
    any_order _ (by decide +kernel)⟩

end ContentDelivery.Lifecycle
