import WidgetTree.Proofs.Forest.Turn

namespace WidgetTree

/-- The record of a widget is as its class has it. -/
structure Record.Conforms (record : Record) (cls : WidgetClass) : Prop where
  attached : ∀ attachment ∈ record.attachment, cls.supports attachment.strategy = true
  called : ∀ call ∈ record.calls, cls.hasMethod call.method = true
  tabs : record.tabs ≠ [] → record.widgetType = "Notebook"
  text : record.text ≠ "" → record.widgetType = "Entry"
  items : record.items ≠ [] → record.widgetType = "Listbox"

namespace Record

variable {record later : Record} {cls : WidgetClass}

private theorem conforms_newRecord (widgetType : String) (parent : Option WidgetId)
    (args : Fields Value)
    (cls : WidgetClass) : (Forest.newRecord widgetType parent args).Conforms cls where
  attached attachment hattachment := by cases hattachment
  called call hcall := by cases hcall
  tabs hne := absurd rfl hne
  text hne := absurd rfl hne
  items hne := absurd rfl hne

private theorem Conforms.noteCall {call : Call} (hconforms : record.Conforms cls)
    (hmethod : cls.hasMethod call.method = true) :
    (Forest.noteCall call record).Conforms cls where
  attached := hconforms.attached
  called known hknown := by
    rcases List.mem_append.mp hknown with hold | hnew
    · exact hconforms.called known hold
    · rw [List.mem_singleton.mp hnew]
      exact hmethod
  tabs := hconforms.tabs
  text := hconforms.text
  items := hconforms.items

/-- A method puts something into pages, text or items only if its class has them. -/
theorem Conforms.perform {call : Call} {answer : Value} (hconforms : record.Conforms cls)
    (hperform : record.perform (Behaviour.of record.widgetType call.method) call =
      .ok (answer, later)) : later.Conforms cls := by
  obtain ⟨htype, -, hattachment⟩ := kept_of_uncalled (uncalled_of_perform hperform)
  obtain ⟨htabs, htext, hitems⟩ := confined_of_perform hperform
  refine ⟨?_, ?_, ?_, ?_, ?_⟩
  · rw [hattachment]
    exact hconforms.attached
  · rw [calls_of_perform hperform]
    exact hconforms.called
  · rw [htype]
    rcases htabs with hsame | howner
    · exact hsame ▸ hconforms.tabs
    · exact fun _ => Behaviour.widgetType_of_owner? howner
  · rw [htype]
    rcases htext with hsame | howner
    · exact hsame ▸ hconforms.text
    · exact fun _ => Behaviour.widgetType_of_owner? howner
  · rw [htype]
    rcases hitems with hsame | howner
    · exact hsame ▸ hconforms.items
    · exact fun _ => Behaviour.widgetType_of_owner? howner

/-- However a record turns, it stays as its class has it. -/
theorem Conforms.turn (hconforms : record.Conforms cls) (hturns : record.Turns cls later) :
    later.Conforms cls := by
  cases hturns with
  | attached args hsupports =>
    refine { hconforms with attached := ?_ }
    intro attachment hattachment
    cases hattachment
    exact hsupports
  | attributeSet name value => exact { hconforms with }
  | failed hmethod => exact hconforms.noteCall hmethod
  | performed hmethod hperform => exact (hconforms.noteCall hmethod).perform hperform

end Record

namespace Forest

/-- Every live widget is of a class in the catalogue, and as the class has it. -/
structure Conforms (forest : Forest) : Prop where
  classed : ∀ widget record, forest.record? widget = some record →
    ∃ cls ∈ WidgetClass.catalogue, cls.name = record.widgetType ∧
      forest.classOf widget = .ok cls ∧ record.Conforms cls
  /-- A class is asked for in vain only of a widget that is not live. -/
  known : ∀ widget error, forest.classOf widget = .error error → error = .deadWidget
  windows : ∀ widget record, forest.record? widget = some record →
    record.widgetType = "Tk" ∨ record.widgetType = "Toplevel" → record.attachment = none

/-- Every live widget is of a class that the name of its type finds, and as the class has it. -/
def Classed (forest : Forest) : Prop :=
  ∀ widget record, forest.record? widget = some record →
    ∃ cls, WidgetClass.ofName? record.widgetType = some cls ∧ record.Conforms cls

variable {forest : Forest}

private theorem Classed.catalogued (hclassed : forest.Classed) : forest.Catalogued := by
  intro widget record hrecord
  obtain ⟨cls, hclass, -⟩ := hclassed widget record hrecord
  exact ⟨cls, hclass⟩

/-- One request keeps every live widget as its class has it. -/
theorem Classed.serve (hclassed : forest.Classed) (hsound : forest.Sound) (request : Request) :
    (forest.serve request).Classed := by
  intro widget later hlater
  rcases serve_turns hsound hclassed.catalogued request hlater with
    hold | ⟨widgetType, parent, args, -, ⟨cls, hclass⟩, rfl⟩ |
      ⟨record, cls, hrecord, hclass, hturns⟩
  · exact hclassed widget later hold
  · exact ⟨cls, hclass, Record.conforms_newRecord widgetType parent args cls⟩
  · obtain ⟨known, hknown, hconforms⟩ := hclassed widget record hrecord
    obtain rfl : cls = known := Option.some.inj (hclass.symm.trans hknown)
    exact ⟨cls, hturns.widgetType ▸ hclass, hconforms.turn hturns⟩

private theorem Classed.conforms (hclassed : forest.Classed) : forest.Conforms where
  classed widget record hrecord := by
    obtain ⟨cls, hclass, hconforms⟩ := hclassed widget record hrecord
    exact ⟨cls, List.mem_of_find?_eq_some hclass, WidgetClass.name_of_ofName? hclass,
      classOf_eq_ok_iff.mpr ⟨record, hrecord, hclass⟩, hconforms⟩
  known widget error hclass := by
    cases hrecord : forest.record? widget with
    | none =>
      rw [classOf, hrecord] at hclass
      cases hclass
      rfl
    | some record =>
      obtain ⟨cls, hname, -⟩ := hclassed widget record hrecord
      rw [classOf_eq_ok_iff.mpr ⟨record, hrecord, hname⟩] at hclass
      cases hclass
  windows widget record hrecord htype := by
    obtain ⟨cls, hclass, hconforms⟩ := hclassed widget record hrecord
    have hnone : cls.strategies = [] := by
      rcases htype with htype | htype
      all_goals
        rw [htype] at hclass
        cases hclass
        rfl
    cases hattachment : record.attachment with
    | none => rfl
    | some attachment =>
      have hsupports := hconforms.attached attachment hattachment
      rw [WidgetClass.supports, hnone] at hsupports
      cases hsupports

/-- Whatever is asked of the empty forest, in any order, with any arguments and with success or
without, leaves every live widget as the catalogue has it. -/
theorem conforms_serveAll_empty (requests : List Request) : (empty.serveAll requests).Conforms := by
  have hempty : empty.Classed := by simp [Classed, empty, record?, widgets, Table.get?]
  exact (kept_serveAll hempty (fun _ hsound hclassed request => hclassed.serve hsound request)
    requests).conforms

end Forest

end WidgetTree
