import WidgetTree.Proofs.Forest.Fit
import WidgetTree.Proofs.Rows.Row

namespace WidgetTree

namespace RowSpec

/-- What is asked for an option of the row's check button. -/
def option? (spec : RowSpec) (name : String) : Option Value :=
  (spec.content "Checkbutton").constructorArgs.get? name

/-- What the row's check button writes to its state variable when it is checked. -/
def onValue (spec : RowSpec) : Value := (spec.option? "onvalue").getD (.int 1)

/-- What the row's check button writes to its state variable when it is unchecked. -/
def offValue (spec : RowSpec) : Value := (spec.option? "offvalue").getD (.int 0)

end RowSpec

/-- The record of the check button of a new row. -/
structure Record.MadeFor (spec : RowSpec) (handle : VariableId) (record : Record) : Prop where
  widgetType : record.widgetType = "Checkbutton"
  option? : ∀ name, record.option? name =
    if name = "variable" then some (.stateVariable handle) else spec.option? name

namespace Record.MadeFor

variable {spec : RowSpec} {handle : VariableId} {record : Record}
  (hmade : record.MadeFor spec handle)
include hmade

/-- The check button of a row names the row's variable. -/
theorem names : record.Names handle := (hmade.option? "variable").trans (if_pos rfl)

/-- The check button of a row writes the on value that is asked for. -/
theorem onValue_eq : record.onValue = spec.onValue := by
  rw [onValue, hmade.option? "onvalue", if_neg (by decide)]
  rfl

/-- The check button of a row writes the off value that is asked for. -/
theorem offValue_eq : record.offValue = spec.offValue := by
  rw [offValue, hmade.option? "offvalue", if_neg (by decide)]
  rfl

end Record.MadeFor

/-- The variable stands last in the arguments, over whatever the row asks for. -/
theorem RowStrategy.madeFor_checkButton (spec : RowSpec) (handle : VariableId)
    (parent : Option WidgetId) (attachment : Option Attachment) :
    { Forest.newRecord "Checkbutton" parent
        (RowStrategy.checkButton spec handle).constructorArgs with attachment }.MadeFor spec
      handle where
  widgetType := rfl
  option? name := by
    change Table.get? (Table.insert (spec.content "Checkbutton").constructorArgs "variable"
      (.stateVariable handle)) name = _
    rw [Table.get?_insert]
    by_cases hname : name = "variable"
    · rw [if_pos hname, if_pos hname.symm]
    · rw [if_neg hname, if_neg (Ne.symm hname)]
      rfl

namespace Forest

section MakeRow

variable {forest : Forest} {parent : WidgetId} (hsound : forest.Sound)
  (hparent : parent ∈ forest.live) (spec : RowSpec)

/-- The widget of a new row's content, the second one that is constructed for the row. -/
def rowButton (forest : Forest) : WidgetId := ⟨forest.constructed + 2⟩

/-- The forest in which the content of a new row is constructed: its container is there, and its
state variable. -/
def rowHeld (forest : Forest) (parent : WidgetId) (spec : RowSpec) : Forest :=
  ((forest.pack "Frame" parent spec.container).createVariable (.int 1)).2

/-- Once the container and the variable of a row are there, its check button is constructed next. -/
theorem next_rowHeld : (forest.rowHeld parent spec).next = forest.rowButton := by
  change (⟨(forest.pack "Frame" parent spec.container).constructed + 1⟩ : WidgetId) = _
  rw [constructed_pack]
  rfl

/-- A row of a check button is its container, a new variable, and the button inside the container.
-/
theorem makeRow_eq : forest.makeRow .checkbox "Checkbutton" parent spec =
    (rowIn parent forest.next forest.rowButton spec
        ⟨RowStrategy.checkButton spec forest.freshVariable, some forest.freshVariable⟩,
      (forest.rowHeld parent spec).pack "Checkbutton" forest.next
        (RowStrategy.checkButton spec forest.freshVariable)) := by
  have hhandle : ((forest.pack "Frame" parent spec.container).createVariable (.int 1)).1 =
      forest.freshVariable := by
    rw [createVariable, heldValues_pack]
    rfl
  rw [← hhandle, ← @next_rowHeld forest parent spec]
  rfl

/-- A row takes two widgets. -/
theorem constructed_makeRow :
    (forest.makeRow .checkbox "Checkbutton" parent spec).2.constructed =
      forest.constructed + 2 := by
  rw [makeRow_eq, constructed_pack]
  exact congrArg (· + 1) (constructed_pack "Frame" spec.container)

private theorem heldValues_makeRow :
    (forest.makeRow .checkbox "Checkbutton" parent spec).2.heldValues =
      forest.heldValues ++ [.int 1] := by
  rw [makeRow_eq, heldValues_pack, rowHeld, createVariable, heldValues_pack]

/-- The variable of a new row holds 1, and all others hold what they held. -/
theorem valueIn?_makeRow (other : VariableId) :
    (forest.makeRow .checkbox "Checkbutton" parent spec).2.valueIn? other =
      if other = forest.freshVariable then some (.int 1) else forest.valueIn? other := by
  have hcreated := forest.valueIn?_createVariable (.int 1) other
  rw [valueIn?, createVariable] at hcreated
  rw [valueIn?, heldValues_makeRow]
  exact hcreated

include hsound hparent

/-- Once the container and the variable of a row are there, the forest is sound and the container
live. -/
theorem sound_rowHeld : (forest.rowHeld parent spec).Sound ∧
    forest.next ∈ (forest.rowHeld parent spec).live := by
  have hhoused := hsound.pack "Frame" spec.container hparent
  have htouches := hold_touches (forest.pack "Frame" parent spec.container) (some (.int 1))
    forest.next
  exact ⟨htouches.sound hhoused, (mem_live_pack_iff "Frame" spec.container hsound).mpr (.inr rfl)⟩

/-- Making a row leaves the forest sound. -/
theorem sound_makeRow : (forest.makeRow .checkbox "Checkbutton" parent spec).2.Sound := by
  obtain ⟨hheld, hholder⟩ := sound_rowHeld hsound hparent spec
  rw [makeRow_eq]
  exact hheld.pack "Checkbutton" _ hholder

/-- Widgets that were there are there as before, but that the row is the last inside its parent. -/
theorem kept_makeRow {widget : WidgetId} (hlive : widget ∈ forest.live) :
    widget ∈ (forest.makeRow .checkbox "Checkbutton" parent spec).2.live ∧
      (forest.makeRow .checkbox "Checkbutton" parent spec).2.record? widget =
        forest.record? widget ∧
      (parent ≠ widget →
        (forest.makeRow .checkbox "Checkbutton" parent spec).2.children widget =
          forest.children widget) := by
  obtain ⟨hheld, -⟩ := sound_rowHeld hsound hparent spec
  obtain ⟨hliveHoused, hrecordHoused, hchildrenHoused⟩ :=
    @kept_pack forest parent "Frame" spec.container hsound widget hlive
  obtain ⟨hliveLeft, hrecordLeft, hchildrenLeft⟩ :=
    @kept_pack (forest.rowHeld parent spec) forest.next "Checkbutton"
      (RowStrategy.checkButton spec forest.freshVariable) hheld widget hliveHoused
  have hold : forest.next ≠ widget := by
    rintro rfl
    exact hsound.next_not_live hlive
  rw [makeRow_eq]
  refine ⟨hliveLeft, hrecordLeft.trans hrecordHoused, fun hparent => ?_⟩
  exact (hchildrenLeft hold).trans (hchildrenHoused hparent)

/-- The check button of a new row is as the row asks for. -/
theorem record?_rowButton : ∃ record,
    (forest.makeRow .checkbox "Checkbutton" parent spec).2.record? forest.rowButton = some record ∧
      record.MadeFor spec forest.freshVariable := by
  obtain ⟨hheld, -⟩ := sound_rowHeld hsound hparent spec
  rw [makeRow_eq, record?_pack "Checkbutton" _ hheld, if_pos (next_rowHeld spec).symm]
  exact ⟨_, rfl, RowStrategy.madeFor_checkButton spec forest.freshVariable (some forest.next) _⟩

/-- A row leaves all state variables that were there, whatever it asks for. -/
theorem makeRow_augmented : Augmented (fun _ => False) forest
    (forest.makeRow .checkbox "Checkbutton" parent spec).2 where
  sound := sound_makeRow hsound hparent spec
  count := by
    rw [heldValues_makeRow, List.length_append]
    exact Nat.le_add_right _ _
  records _ hlive := (kept_makeRow hsound hparent spec hlive).2.1
  values handle _ hold := by
    rw [valueIn?_makeRow, if_neg]
    rintro rfl
    exact absurd hold (Nat.not_succ_le_self _)

/-- A row with a check button is a new widget with a new variable that it names, whatever else is
asked for. -/
theorem makeRow_fitted : Fitted forest.rowButton forest.freshVariable forest
    (forest.makeRow .checkbox "Checkbutton" parent spec).2 where
  fresh hlive := absurd (hsound.issued _ hlive).2 (by simp [rowButton])
  created := Nat.lt_succ_self _
  held := by
    rw [heldValues_makeRow, List.length_append, List.length_singleton]
    exact Nat.le_refl _
  named := by
    obtain ⟨record, hrecord, hmade⟩ := record?_rowButton hsound hparent spec
    exact ⟨record, hrecord, hmade.names⟩

end MakeRow

end Forest

end WidgetTree
