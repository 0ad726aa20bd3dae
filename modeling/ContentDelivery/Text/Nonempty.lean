/-
ContentDelivery.Text.Nonempty — optional strings where an empty one says nothing.
-/
namespace ContentDelivery

/-- A string that says something: an empty one counts as none. -/
def nonempty? (s : Option String) : Option String := s.filter (fun t => !t.isEmpty)

theorem nonempty?_none : nonempty? none = none := rfl

theorem nonempty?_empty : nonempty? (some "") = none := by simp [nonempty?]

theorem nonempty?_eq_some {s : Option String} {t : String} :
    nonempty? s = some t ↔ s = some t ∧ t ≠ "" := by
  simp [nonempty?, Option.filter_eq_some_iff]

end ContentDelivery
