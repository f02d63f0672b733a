import LineCalc.Bindings

/-!
# Values of names

Giving a name a value changes what that name stands for, and nothing else.
-/

namespace LineCalc.Bindings

@[simp]
theorem get?_empty (name : String) : empty.get? name = none :=
  rfl

theorem lookup_filter_of_ne {entries : List (String × Value)} {name other : String}
    (different : other ≠ name) :
    (entries.filter fun entry => entry.1 != name).lookup other = entries.lookup other := by
  induction entries with
  | nil => rfl
  | cons entry entries ih =>
      obtain ⟨key, value⟩ := entry
      by_cases same : key = name
      · subst same
        have dropped : ((key, value) :: entries).filter (fun entry => entry.1 != key) =
            entries.filter fun entry => entry.1 != key := by simp
        rw [dropped, ih, List.lookup_cons, beq_false_of_ne different]
      · have kept : ((key, value) :: entries).filter (fun entry => entry.1 != name) =
            (key, value) :: entries.filter fun entry => entry.1 != name := by simp [same]
        rw [kept, List.lookup_cons, List.lookup_cons, ih]

theorem get?_insert (bindings : Bindings) (name other : String) (value : Value) :
    (bindings.insert name value).get? other =
      if other = name then some value else bindings.get? other := by
  unfold insert get?
  by_cases same : other = name
  · simp [same]
  · rw [if_neg same, List.lookup_cons, beq_false_of_ne same]
    exact lookup_filter_of_ne same

end LineCalc.Bindings
