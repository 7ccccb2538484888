import Mathlib.Data.List.Induction
import WidgetTree.Proofs.Forest.Failure

namespace WidgetTree

/-- The class whose widgets alone have methods that do this to their pages, text or items. -/
def Behaviour.owner? : Behaviour → Option String
  | addTab | listTabs => some "Notebook"
  | insertText | deleteText | tellText => some "Entry"
  | insertItems | deleteItems | tellItem | countItems => some "Listbox"
  | _ => none

/-- A method that one class alone has is a method of its widgets. -/
theorem Behaviour.widgetType_of_owner? {widgetType method owner : String}
    (howner : (of widgetType method).owner? = some owner) : widgetType = owner := by
  unfold of at howner
  split at howner <;> simp_all [owner?]

/-- The pages, the text and the items of a record are left alone by what is not done by methods of
the class that has them. -/
theorem Record.confined_of_perform {record later : Record} {behaviour : Behaviour} {call : Call}
    {answer : Value} (hperform : record.perform behaviour call = .ok (answer, later)) :
    (later.tabs = record.tabs ∨ behaviour.owner? = some "Notebook") ∧
      (later.text = record.text ∨ behaviour.owner? = some "Entry") ∧
      (later.items = record.items ∨ behaviour.owner? = some "Listbox") := by
  unfold Record.perform at hperform
  dsimp only at hperform
  cases behaviour <;> dsimp only at hperform <;> (try split at hperform) <;>
    first
    | cases hperform; simp [Behaviour.owner?]
    | cases hperform

/-- Calls leave the type, the constructor's arguments and the attachment. -/
theorem Record.kept_of_uncalled {record later : Record}
    (huncalled : later.uncalled = record.uncalled) :
    later.widgetType = record.widgetType ∧ later.constructorArgs = record.constructorArgs ∧
      later.attachment = record.attachment := by
  simp only [uncalled, mk.injEq] at huncalled
  exact ⟨huncalled.1, huncalled.2.2.1, huncalled.2.2.2.1⟩

/-- What one request can make of the record of a live widget of a class. -/
inductive Record.Turns (record : Record) (cls : WidgetClass) : Record → Prop
  | attached {strategy : String} (args : Fields Value) (hsupports : cls.supports strategy = true) :
      Turns record cls { record with attachment := some { strategy, args } }
  | attributeSet (name : String) (value : Value) :
      Turns record cls { record with attributes := record.attributes.insert name value }
  | failed {call : Call} (hmethod : cls.hasMethod call.method = true) :
      Turns record cls (Forest.noteCall call record)
  | performed {call : Call} {answer : Value} {later : Record}
      (hmethod : cls.hasMethod call.method = true)
      (hperform : (Forest.noteCall call record).perform
        (Behaviour.of record.widgetType call.method) call = .ok (answer, later)) :
      Turns record cls later

namespace Record.Turns

variable {record later : Record} {cls : WidgetClass}

/-- However a record turns, the widget stays of its type. -/
theorem widgetType (hturns : record.Turns cls later) : later.widgetType = record.widgetType := by
  cases hturns with
  | attached | attributeSet | failed => rfl
  | performed hmethod hperform => exact (kept_of_uncalled (uncalled_of_perform hperform)).1

/-- However a record turns, it keeps the arguments of the constructor. -/
theorem constructorArgs (hturns : record.Turns cls later) :
    later.constructorArgs = record.constructorArgs := by
  cases hturns with
  | attached | attributeSet | failed => rfl
  | performed hmethod hperform => exact (kept_of_uncalled (uncalled_of_perform hperform)).2.1

end Record.Turns

namespace Forest

variable {forest : Forest} {widget : WidgetId} {record later : Record} {call : Call}

/-- A call is accepted only if it is of a method of the class of its widget. -/
theorem exists_class_of_accepts (hrecord : forest.record? widget = some record) {method : String}
    (haccepts : forest.accepts widget method = true) :
    ∃ cls, WidgetClass.ofName? record.widgetType = some cls ∧ cls.hasMethod method = true := by
  unfold accepts at haccepts
  split at haccepts
  · next cls hclass =>
    obtain ⟨known, hknown, hname⟩ := classOf_eq_ok_iff.mp hclass
    obtain rfl : record = known := Option.some.inj (hrecord.symm.trans hknown)
    exact ⟨cls, hname, haccepts⟩
  · cases haccepts

/-- What comes of a call to a widget with a record: it fails and leaves the record, or it performs
on the record what the method does. -/
inductive Performs (widget : WidgetId) (record : Record) (behaviour : Behaviour) (call : Call) :
    Outcome Forest Value → Prop
  | failed (error : ToolkitError) {after : Forest} (hrecord : after.record? widget = some record) :
      Performs widget record behaviour call (.error error, after)
  | done {answer : Value} {later : Record} {after : Forest}
      (hperform : record.perform behaviour call = .ok (answer, later))
      (hrecord : after.record? widget = some later) :
      Performs widget record behaviour call (.ok answer, after)

private theorem check_performs (hrecord : forest.record? widget = some record) (turn : Option Bool)
    (call : Call) : Performs widget record (.check turn) call (forest.check record turn) := by
  have hkept := (record?_check forest record turn widget).trans hrecord
  unfold check at hkept ⊢
  split at hkept
  · exact .done rfl hkept
  · split at hkept
    · exact .failed _ hkept
    · exact .done rfl hkept

private theorem performLocally_performs (hrecord : forest.record? widget = some record)
    (behaviour : Behaviour) (call : Call) :
    Performs widget record behaviour call (forest.performLocally widget record behaviour call) := by
  unfold performLocally
  cases hperform : record.perform behaviour call with
  | error error => exact .failed error hrecord
  | ok result =>
    refine .done hperform ?_
    rw [record?_modify, if_pos rfl, hrecord, Option.map_some]

private theorem carryOut_performs (hrecord : forest.record? widget = some record)
    (behaviour : Behaviour) (call : Call) :
    Performs widget record behaviour call (forest.carryOut widget record behaviour call) := by
  cases behaviour with
  | check turn => exact check_performs hrecord turn call
  | checkAndFire =>
    have hcheck := check_performs hrecord none call
    rw [carryOut]
    generalize forest.check record none = outcome at hcheck
    cases hcheck with
    | failed error hkept => exact .failed error hkept
    | @done _ _ after hperform hkept =>
      cases hperform
      exact .done rfl ((record?_fireBound after record widget).trans hkept)
  | fire => exact .done rfl ((record?_fireBound forest record widget).trans hrecord)
  | addTab =>
    rw [carryOut]
    split
    · exact .failed _ hrecord
    · exact performLocally_performs hrecord .addTab call
  | _ => exact performLocally_performs hrecord _ call

/-- An accepted call is taken note of in the record of its widget before anything else. -/
theorem invoke_performs (hrecord : forest.record? widget = some record)
    (haccepts : forest.accepts widget call.method = true) :
    Performs widget (noteCall call record) (Behaviour.of record.widgetType call.method) call
      (forest.invoke widget call) := by
  rw [invoke_of_accepts hrecord haccepts]
  refine carryOut_performs ?_ _ call
  rw [record?_log, record?_modify, if_pos rfl, hrecord, Option.map_some]

/-- A call's answer, and the record of its widget afterwards but for the call itself, which is taken
note of there. -/
def Leaves (forest : Forest) (widget : WidgetId) (call : Call) (answer : Except ToolkitError Value)
    (later : Record) : Prop :=
  (forest.invoke widget call).1 = answer ∧
    (forest.invoke widget call).2.record? widget = some (noteCall call later)

section Methods

variable {forest : Forest} {widget : WidgetId} {record later : Record} {widgetType : String}
  {cls : WidgetClass} {call : Call} {behaviour : Behaviour} {answer : Value} {error : ToolkitError}

variable (hrecord : forest.record? widget = some record) (htype : record.widgetType = widgetType)
  (hclass : WidgetClass.ofName? widgetType = some cls)
  (hmethod : cls.hasMethod call.method = true)
  (hbehaviour : Behaviour.of widgetType call.method = behaviour)
  (hlocal : ∀ noted : Forest, noted.carryOut widget (noteCall call record) behaviour call =
    noted.performLocally widget (noteCall call record) behaviour call)

include hrecord htype hclass hmethod hbehaviour hlocal

/-- A method that concerns the record alone is performed on the record that notes the call. -/
theorem invoke_locally :
    forest.invoke widget call =
      ((forest.modify widget (noteCall call)).log (.invoked widget call.method)).performLocally
        widget (noteCall call record) behaviour call := by
  subst htype
  have haccepts := (accepts_of_class hrecord hclass call.method).trans hmethod
  rw [invoke_of_accepts hrecord haccepts, hbehaviour, hlocal]

/-- A call that performs what its method does leaves the record that it makes. -/
theorem leaves_of_perform
    (hperform : (noteCall call record).perform behaviour call =
      .ok (answer, noteCall call later)) :
    forest.Leaves widget call (.ok answer) later := by
  rw [Leaves, invoke_locally hrecord htype hclass hmethod hbehaviour hlocal, performLocally,
    hperform]
  simp [record?_modify, hrecord]

/-- A call with arguments that its method refuses leaves the record. -/
theorem leaves_of_perform_error
    (hperform : (noteCall call record).perform behaviour call = .error error) :
    forest.Leaves widget call (.error error) record := by
  rw [Leaves, invoke_locally hrecord htype hclass hmethod hbehaviour hlocal, performLocally,
    hperform]
  simp [record?_modify, hrecord]

end Methods

private theorem record?_of_modify {other : WidgetId} {change : Record → Record} {event : Event}
    (hrecord : forest.record? other = some record)
    (hlater : ((forest.modify other change).log event).record? widget = some later) :
    forest.record? widget = some later ∨ widget = other ∧ change record = later := by
  rw [record?_log, record?_modify] at hlater
  split at hlater
  · next hother =>
    rw [hother, hrecord] at hlater
    exact .inr ⟨hother, Option.some.inj hlater⟩
  · exact .inl hlater

/-- A request changes no record, or constructs the widget with its record, or turns the record of a
widget as its class allows. -/
theorem serve_turns (hsound : forest.Sound) (hcatalogued : forest.Catalogued) (request : Request)
    (hlater : (forest.serve request).record? widget = some later) :
    forest.record? widget = some later ∨
    (∃ widgetType parent args, request = .construct widgetType parent args ∧
      (∃ cls, WidgetClass.ofName? widgetType = some cls) ∧
      later = newRecord widgetType parent args) ∨
    ∃ record cls, forest.record? widget = some record ∧
      WidgetClass.ofName? record.widgetType = some cls ∧ record.Turns cls later := by
  cases request with
  | construct widgetType parent args =>
    rcases construct_cases widgetType parent args forest with
      ⟨error, hrefused⟩ | ⟨hknown, -, hplanted⟩
    · rw [serve, hrefused] at hlater
      exact .inl hlater
    · rw [serve, hplanted, record?_plant widgetType parent args hsound] at hlater
      split at hlater
      · cases hlater
        exact .inr (.inl ⟨widgetType, parent, args, rfl, hknown, rfl⟩)
      · exact .inl hlater
  | attach other strategy args =>
    rw [serve, attach] at hlater
    split at hlater
    · exact .inl hlater
    · next cls hclass =>
      obtain ⟨record, hrecord, hname⟩ := classOf_eq_ok_iff.mp hclass
      split at hlater
      · next hsupports =>
        rcases record?_of_modify hrecord hlater with hsame | ⟨rfl, rfl⟩
        · exact .inl hsame
        · exact .inr (.inr ⟨record, cls, hrecord, hname, .attached args hsupports⟩)
      · exact .inl hlater
  | setAttribute other name value =>
    rw [serve, setAttribute] at hlater
    split at hlater
    · next hcontains =>
      obtain ⟨record, hrecord⟩ := mem_live_iff.mp (contains_iff.mp hcontains)
      obtain ⟨cls, hname⟩ := hcatalogued other record hrecord
      rcases record?_of_modify hrecord hlater with hsame | ⟨rfl, rfl⟩
      · exact .inl hsame
      · exact .inr (.inr ⟨record, cls, hrecord, hname, .attributeSet name value⟩)
    · exact .inl hlater
  | invoke other call =>
    rcases invoke_cases other call forest with
      ⟨-, error, hrefused⟩ | ⟨haccepts, record, -, hrecord, -⟩
    · rw [serve, hrefused] at hlater
      exact .inl hlater
    · by_cases hother : widget = other
      · subst hother
        obtain ⟨cls, hname, hmethod⟩ := exists_class_of_accepts hrecord haccepts
        refine .inr (.inr ⟨record, cls, hrecord, hname, ?_⟩)
        have hperforms := invoke_performs hrecord haccepts
        rw [serve] at hlater
        generalize forest.invoke widget call = outcome at hperforms hlater
        cases hperforms with
        | failed error hnoted =>
          obtain rfl := Option.some.inj (hnoted.symm.trans hlater)
          exact .failed hmethod
        | done hperform hleft =>
          obtain rfl := Option.some.inj (hleft.symm.trans hlater)
          exact .performed hmethod hperform
      · rw [serve, (invoke_spec other call forest).1.others widget hother] at hlater
        exact .inl hlater
  | destroy gone =>
    by_cases hlive : gone ∈ forest.live
    · obtain ⟨felled, hdestroy, hfelled⟩ := hsound.destroy_felled hlive
      rw [serve, hdestroy] at hlater
      rw [← hfelled.record?_of_mem_live (mem_live_iff.mpr ⟨later, hlater⟩)]
      exact .inl hlater
    · rw [serve, destroy_of_not_mem hlive] at hlater
      exact .inl hlater
  | createVariable | registerCommand => exact .inl hlater
  | readVariable | writeVariable | fireCommand =>
    simp only [serve, readVariable, writeVariable, fireCommand] at hlater
    split at hlater <;> exact .inl hlater

/-- What holds of the empty forest and is kept by every request to a sound forest holds of whatever
requests to the empty forest leave. -/
theorem kept_serveAll {kept : Forest → Prop} (hempty : kept empty)
    (hserve : ∀ forest : Forest, forest.Sound → kept forest → ∀ request,
      kept (forest.serve request))
    (requests : List Request) : kept (empty.serveAll requests) := by
  induction requests using List.reverseRecOn with
  | nil => exact hempty
  | append_singleton early request ih =>
    rw [serveAll_append_singleton]
    exact hserve _ (serveAll_keeps sound_empty rfl early).1 ih request

end Forest

end WidgetTree
