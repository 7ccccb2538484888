import WidgetTree.Forest.Invoke
import WidgetTree.Proofs.Table

namespace WidgetTree

/-- The record as it would be if no method had ever been called: method calls change nothing of
what is left. -/
def Record.uncalled (record : Record) : Record where
  widgetType := record.widgetType
  parent := record.parent
  constructorArgs := record.constructorArgs
  attachment := record.attachment
  attributes := record.attributes

/-- What a method does to the record of its widget is undone by leaving out what calls have made
of it. The method's success is all that is needed of the call. -/
theorem Record.uncalled_of_perform {record after : Record} {behaviour : Behaviour} {call : Call}
    {answer : Value} (hperform : record.perform behaviour call = .ok (answer, after)) :
    after.uncalled = record.uncalled := by
  unfold Record.perform at hperform
  dsimp only at hperform
  cases behaviour <;> dsimp only at hperform <;> (try split at hperform) <;>
    first
    | cases hperform; rfl
    | cases hperform

/-- No method changes the log of the widget: the call was logged before. -/
theorem Record.calls_of_perform {record after : Record} {behaviour : Behaviour} {call : Call}
    {answer : Value} (hperform : record.perform behaviour call = .ok (answer, after)) :
    after.calls = record.calls := by
  unfold Record.perform at hperform
  dsimp only at hperform
  cases behaviour <;> dsimp only at hperform <;> (try split at hperform) <;>
    first
    | cases hperform; rfl
    | cases hperform

namespace Forest

/-- Whom a live widget says that it is inside; nothing for a widget that is not live. -/
def link? (forest : Forest) (widget : WidgetId) : Option (Option WidgetId) :=
  (forest.record? widget).map (·.parent)

/-- A widget is live if it has a record. -/
theorem mem_live_iff {forest : Forest} {widget : WidgetId} :
    widget ∈ forest.live ↔ ∃ record, forest.record? widget = some record :=
  Table.mem_keys_iff

/-- A forest contains its live widgets. -/
theorem contains_iff {forest : Forest} {widget : WidgetId} :
    forest.contains widget = true ↔ widget ∈ forest.live := by
  rw [contains, Option.isSome_iff_exists, mem_live_iff]

/-- A widget without a record is not live. -/
theorem record?_eq_none_iff {forest : Forest} {widget : WidgetId} :
    forest.record? widget = none ↔ widget ∉ forest.live :=
  Table.get?_eq_none_iff

/-- Whoever says what it is inside is live. -/
theorem mem_live_of_link? {forest : Forest} {widget : WidgetId} {parent : Option WidgetId}
    (hlink : forest.link? widget = some parent) : widget ∈ forest.live := by
  obtain ⟨record, hrecord, -⟩ := Option.map_eq_some_iff.mp hlink
  exact mem_live_iff.mpr ⟨record, hrecord⟩

/-- Every live widget says what it is inside, or that it is a root. -/
theorem exists_link?_of_mem_live {forest : Forest} {widget : WidgetId}
    (hlive : widget ∈ forest.live) : ∃ parent, forest.link? widget = some parent := by
  obtain ⟨record, hrecord⟩ := mem_live_iff.mp hlive
  exact ⟨record.parent, by simp [link?, hrecord]⟩

/-- The parent of a widget is what the widget says that it is inside. -/
theorem parent?_eq_some_iff {forest : Forest} {widget parent : WidgetId} :
    forest.parent? widget = some parent ↔ forest.link? widget = some (some parent) := by
  rw [parent?, link?]
  cases forest.record? widget <;> simp

@[simp] theorem record?_log (forest : Forest) (event : Event) (widget : WidgetId) :
    (forest.log event).record? widget = forest.record? widget := rfl

section Modify

variable (forest : Forest) (widget : WidgetId) (change : Record → Record)

private theorem widgets_modify :
    (forest.modify widget change).widgets = forest.widgets.map fun entry =>
      (entry.1, if entry.1 = widget then change entry.2 else entry.2) := by
  simp only [widgets, modify, List.filterMap_map, List.map_filterMap]
  apply List.filterMap_congr
  intro slot _
  cases slot with
  | none => rfl
  | some entry =>
    by_cases hwidget : entry.1 = widget <;> simp [hwidget]

/-- A change to a record leaves the same widgets live. -/
@[simp] theorem live_modify : (forest.modify widget change).live = forest.live := by
  rw [live, widgets_modify]
  exact Table.keys_mapValues forest.widgets fun key record =>
    if key = widget then change record else record

/-- A change to one record leaves the others. A forest is read through the records of its live
widgets, and each step that operations are made of is such an equation on `record?`. -/
theorem record?_modify (other : WidgetId) :
    (forest.modify widget change).record? other =
      if other = widget then (forest.record? other).map change else forest.record? other := by
  rw [record?, widgets_modify]
  have hget := Table.get?_mapValues forest.widgets
    (fun key record => if key = widget then change record else record) other
  refine hget.trans ?_
  by_cases hother : other = widget
  · simp [hother, record?]
  · simp [hother, record?]

end Modify

section Slots

variable {forest : Forest}

private theorem exists_cut {α : Type} {items : List α} {place : Nat} {item : α}
    (hitem : items[place]? = some item) :
    ∃ before behind, items = before ++ item :: behind ∧ before.length = place := by
  obtain ⟨hplace, rfl⟩ := List.getElem?_eq_some_iff.mp hitem
  refine ⟨items.take place, items.drop (place + 1), ?_, ?_⟩
  · rw [List.getElem_cons_drop hplace, List.take_append_drop]
  · rw [List.length_take]
    omega

/-- The slot that a new widget takes, if one is free, is empty. -/
def FreeIsVacant (forest : Forest) : Prop :=
  ∀ slot ∈ forest.free, forest.slots[slot]? = some none

/-- Wherever a new widget is put, the widgets before it and behind it stay what they were. -/
theorem widgets_occupy (hvacant : forest.FreeIsVacant) (widget : WidgetId) (record : Record) :
    ∃ before behind, forest.widgets = before ++ behind ∧
      (forest.occupy widget record).widgets = before ++ (widget, record) :: behind := by
  unfold occupy
  split
  · next slot free hfree =>
    have hslot := hvacant slot (by simp [hfree])
    obtain ⟨before, behind, hslots, rfl⟩ := exists_cut hslot
    refine ⟨before.filterMap id, behind.filterMap id, ?_, ?_⟩
    · simp [widgets, hslots]
    · simp [widgets, hslots]
  · refine ⟨forest.widgets, [], by simp, ?_⟩
    simp [widgets]

/-- A widget that is put into a slot joins the live ones. -/
theorem live_occupy (hvacant : forest.FreeIsVacant) (widget : WidgetId) (record : Record) :
    (forest.occupy widget record).live.Perm (forest.live ++ [widget]) := by
  obtain ⟨before, behind, hbefore, hafter⟩ := widgets_occupy hvacant widget record
  rw [live, live, hbefore, hafter, Table.keys_append, Table.keys_append, Table.keys_cons]
  exact List.perm_middle.trans (List.perm_append_singleton _ _).symm

/-- A widget that is put into a slot has its record, and others keep theirs. -/
theorem record?_occupy (hvacant : forest.FreeIsVacant) {widget : WidgetId}
    (hfresh : widget ∉ forest.live) (record : Record) (other : WidgetId) :
    (forest.occupy widget record).record? other =
      if other = widget then some record else forest.record? other := by
  obtain ⟨before, behind, hbefore, hafter⟩ := widgets_occupy hvacant widget record
  have hnew : widget ∉ before.keys := by
    rw [live, hbefore, Table.keys_append, List.mem_append] at hfresh
    exact fun hmem => hfresh (.inl hmem)
  rw [record?, record?, hbefore, hafter, Table.get?_append, Table.get?_append]
  by_cases hother : other = widget
  · subst hother
    simp [Table.get?_eq_none_iff.mpr hnew, Table.get?]
  · simp [hother, Table.get?, Ne.symm hother]

/-- Freeing the slot of a widget takes the widget out and leaves every other where it is. -/
theorem widgets_vacate (hnodup : forest.live.Nodup) (widget : WidgetId) :
    (forest.vacate widget).widgets = forest.widgets.erase widget := by
  unfold vacate
  dsimp only
  split
  · next hnone =>
    refine (Table.erase_of_not_mem ?_).symm
    intro hmem
    obtain ⟨record, hrecord⟩ := Table.mem_keys_iff.mp hmem
    obtain ⟨slot, hslot, hentry⟩ := List.mem_filterMap.mp (Table.mem_of_get? hrecord)
    have hholds := List.findIdx?_eq_none_iff.mp hnone slot hslot
    simp only [id_eq] at hentry
    simp [hentry] at hholds
  · next slot hsome =>
    obtain ⟨hlength, hholds, -⟩ := List.findIdx?_eq_some_iff_getElem.mp hsome
    obtain ⟨entry, hentry, hwidget⟩ := (Option.any_eq_true _ _).mp hholds
    simp only [decide_eq_true_eq] at hwidget
    subst hwidget
    obtain ⟨before, behind, hslots, rfl⟩ :=
      exists_cut (List.getElem?_eq_some_iff.mpr ⟨hlength, hentry⟩)
    have hkeys : Table.Distinct (before.filterMap id ++ entry :: behind.filterMap id) := by
      simpa [Table.Distinct, live, widgets, hslots] using hnodup
    simpa [widgets, hslots] using (Table.erase_middle hkeys).symm

/-- A widget whose slot is freed leaves the live ones. -/
theorem live_vacate (hnodup : forest.live.Nodup) (widget : WidgetId) :
    (forest.vacate widget).live = forest.live.filter (· ≠ widget) := by
  rw [live, widgets_vacate hnodup, Table.keys_erase]
  rfl

/-- A widget whose slot is freed has no record any more, and others keep theirs. -/
theorem record?_vacate (hnodup : forest.live.Nodup) (widget other : WidgetId) :
    (forest.vacate widget).record? other =
      if other = widget then none else forest.record? other := by
  rw [record?, widgets_vacate hnodup, Table.get?_erase]
  by_cases hother : other = widget
  · simp [hother]
  · simp [hother, Ne.symm hother, record?]

end Slots

end Forest

end WidgetTree
