import WidgetTree.Proofs.Forest.Record

namespace WidgetTree.Forest

variable {forest : Forest} {handle : VariableId}

/-- A state variable has got a value, and that is all that has happened to variables and widgets. -/
structure Writes (handle : VariableId) (value : Value) (before after : Forest) : Prop where
  constructed : after.constructed = before.constructed
  count : after.heldValues.length = before.heldValues.length
  records : ∀ widget, after.record? widget = before.record? widget
  children : ∀ widget, after.children widget = before.children widget
  values : ∀ other, after.valueIn? other =
    if other = handle then some value else before.valueIn? other

/-- A variable that holds a value can be written. -/
theorem writeVariable_of_held {current : Value} (hheld : forest.valueIn? handle = some current)
    (value : Value) :
    ∃ left, forest.writeVariable handle value = (.ok (), left) ∧
      Writes handle value forest left := by
  have hwrite : forest.writeVariable handle value = (.ok (),
      { forest with heldValues := forest.heldValues.set (handle.number - 1) value }) := by
    rw [writeVariable, hheld]
  refine ⟨_, hwrite, rfl, List.length_set, fun _ => rfl, fun _ => rfl, ?_⟩
  intro other
  rw [valueIn?] at hheld
  split at hheld
  · cases hheld
  · next hnonzero =>
    obtain ⟨hlength, -⟩ := List.getElem?_eq_some_iff.mp hheld
    rw [valueIn?, valueIn?]
    dsimp only
    by_cases hother : other = handle
    · subst hother
      rw [if_neg hnonzero, if_pos rfl, List.getElem?_set_self hlength]
    · rw [if_neg hother]
      split
      · rfl
      · next hpositive =>
        have hplace : handle.number - 1 ≠ other.number - 1 := by
          intro heq
          have hnumber : other.number = handle.number := by omega
          exact hother (by cases other; cases handle; simpa using hnumber)
        rw [List.getElem?_set_ne hplace]

/-- A new variable holds its value, and no other variable has changed. -/
theorem valueIn?_createVariable (value : Value) (forest : Forest) (other : VariableId) :
    (forest.createVariable value).2.valueIn? other =
      if other = (forest.createVariable value).1 then some value else forest.valueIn? other := by
  rw [valueIn?, valueIn?, createVariable]
  dsimp only
  by_cases hother : other = ⟨forest.heldValues.length + 1⟩
  · subst hother
    simp
  · rw [if_neg hother]
    split
    · rfl
    · next hpositive =>
      have hplace : other.number - 1 ≠ forest.heldValues.length := by
        intro heq
        have hnumber : other.number = forest.heldValues.length + 1 := by omega
        exact hother (by cases other; simpa using hnumber)
      rcases Nat.lt_or_ge (other.number - 1) forest.heldValues.length with hlt | hge
      · rw [List.getElem?_append_left hlt]
      · have hbeyond : forest.heldValues.length < other.number - 1 := by omega
        rw [List.getElem?_eq_none hge, List.getElem?_eq_none]
        rw [List.length_append, List.length_singleton]
        omega

/-- Variables that are created later hold nothing yet. -/
theorem valueIn?_of_length_lt (hlater : forest.heldValues.length < handle.number) :
    forest.valueIn? handle = none := by
  rw [valueIn?]
  split
  · rfl
  · rw [List.getElem?_eq_none]
    omega

/-- Each of the numbers up to the count is that of a variable. -/
theorem exists_valueIn? (hpositive : 0 < handle.number)
    (hcount : handle.number ≤ forest.heldValues.length) :
    ∃ value, forest.valueIn? handle = some value := by
  rw [valueIn?, if_neg (by omega)]
  exact ⟨_, List.getElem?_eq_getElem (by omega)⟩

end WidgetTree.Forest
