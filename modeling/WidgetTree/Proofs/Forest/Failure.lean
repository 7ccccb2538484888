import WidgetTree.Proofs.Forest.Journal
import WidgetTree.Proofs.Forest.Removal

namespace WidgetTree

private theorem Behaviour.of_eq_addTab {widgetType method : String}
    (hbehaviour : of widgetType method = .addTab) : widgetType = "Notebook" ∧ method = "add" := by
  unfold of at hbehaviour
  split at hbehaviour <;> first | exact ⟨rfl, rfl⟩ | cases hbehaviour

/-- The behaviour writes to the state variable that the options of the widget name. -/
def Behaviour.Checks (behaviour : Behaviour) : Prop :=
  (∃ turn, behaviour = .check turn) ∨ behaviour = .checkAndFire

/-- Only check buttons have methods that write state variables. -/
theorem Behaviour.widgetType_of_checks {widgetType method : String}
    (hchecks : (of widgetType method).Checks) : widgetType = "Checkbutton" := by
  unfold of Checks at hchecks
  split at hchecks <;> first | rfl | simp at hchecks

/-- What a method refuses to do to the record of its widget, it refuses for its arguments. -/
theorem Record.invalidArguments_of_perform {record : Record} {behaviour : Behaviour} {call : Call}
    {error : ToolkitError} (hperform : record.perform behaviour call = .error error) :
    ∃ message, error = .invalidArguments call.method message := by
  unfold Record.perform at hperform
  dsimp only at hperform
  cases behaviour <;> dsimp only at hperform <;> (try split at hperform) <;>
    first
    | cases hperform; exact ⟨_, rfl⟩
    | cases hperform

namespace Forest

/-- Every live widget is of a class in the catalogue. -/
def Catalogued (forest : Forest) : Prop :=
  ∀ widget record, forest.record? widget = some record →
    ∃ cls, WidgetClass.ofName? record.widgetType = some cls

/-- The forest that has taken note of a call. A call is noted once it is known that the widget is
live and that its class has the method; what is checked then depends on the method. -/
def noted (forest : Forest) (widget : WidgetId) (call : Call) : Forest :=
  (forest.modify widget (noteCall call)).log (.invoked widget call.method)

/-- Why a method call is refused before it is taken note of. -/
inductive Refusal (forest : Forest) (widget : WidgetId) (method : String) : ToolkitError → Prop
  | dead (hdead : widget ∉ forest.live) : Refusal forest widget method .deadWidget
  | lacking {record : Record} {cls : WidgetClass} (hrecord : forest.record? widget = some record)
      (hclass : WidgetClass.ofName? record.widgetType = some cls)
      (hlacks : cls.hasMethod method = false) :
      Refusal forest widget method (.unknownMethod cls.name method)

/-- Why a method call fails that was taken note of: its arguments are not those of the method, the
page that it adds to a notebook is not live, or the check button that it is made to names a state
variable that there is not. -/
inductive Failure (forest : Forest) (record : Record) (call : Call) : ToolkitError → Prop
  | arguments (message : String) :
      Failure forest record call (.invalidArguments call.method message)
  | deadPage {page : WidgetId} {rest : List Value} (hnotebook : record.widgetType = "Notebook")
      (hadd : call.method = "add") (hpage : call.args.positional = .widget page :: rest)
      (hdead : page ∉ forest.live) : Failure forest record call .deadWidget
  | deadVariable {handle : VariableId} (hbutton : record.widgetType = "Checkbutton")
      (hnamed : record.option? "variable" = some (.stateVariable handle))
      (hdead : forest.valueIn? handle = none) : Failure forest record call .deadVariable

/-- No operation that fails on the forest leaves anything of itself, but for the note of a method
call that is not refused. -/
structure FailsCleanly (forest : Forest) : Prop where
  construct : ∀ widgetType parent args error after,
    forest.construct widgetType parent args = (.error error, after) → after = forest
  attach : ∀ widget strategy args error after,
    forest.attach widget strategy args = (.error error, after) → after = forest
  setAttribute : ∀ widget name value error after,
    forest.setAttribute widget name value = (.error error, after) → after = forest
  destroy : ∀ widget error after,
    forest.destroy widget = (.error error, after) → after = forest
  readVariable : ∀ handle error after,
    forest.readVariable handle = (.error error, after) → after = forest
  writeVariable : ∀ handle value error after,
    forest.writeVariable handle value = (.error error, after) → after = forest
  invoke : ∀ widget call error after, forest.invoke widget call = (.error error, after) →
    Refusal forest widget call.method error ∧ after = forest ∨
    (∃ record, forest.record? widget = some record ∧ forest.accepts widget call.method = true ∧
      Failure forest record call error) ∧ after = forest.noted widget call

variable {forest after : Forest} {widget : WidgetId} {record : Record} {call : Call}
  {error : ToolkitError}

/-- An operation that changes nothing unless it succeeds has changed nothing when it fails. -/
theorem eq_of_refused {α : Type} {outcome : Outcome Forest α}
    (hcases : (∃ refused, outcome = (.error refused, forest)) ∨
      ∃ answer left, outcome = (.ok answer, left))
    (hfailed : outcome = (.error error, after)) : after = forest := by
  obtain ⟨refused, hrefused⟩ | ⟨answer, left, hdone⟩ := hcases
  · rw [hrefused] at hfailed
    cases hfailed
    rfl
  · rw [hdone] at hfailed
    cases hfailed

section Catalogue

private theorem Catalogued.plant (hcatalogued : forest.Catalogued) (hsound : forest.Sound)
    {widgetType : String} (parent : Option WidgetId) (args : Fields Value)
    (hknown : ∃ cls, WidgetClass.ofName? widgetType = some cls) :
    (forest.plant widgetType parent args).Catalogued := by
  intro widget record hrecord
  rw [record?_plant widgetType parent args hsound] at hrecord
  split at hrecord
  · cases hrecord
    exact hknown
  · exact hcatalogued widget record hrecord

private theorem Catalogued.enter (hcatalogued : forest.Catalogued)
    (henters : Enters widget forest after) : after.Catalogued := by
  obtain ⟨htouches, event, record, later, hrecord, hundergoes, hlater, -⟩ := henters
  intro other known hknown
  by_cases hother : other = widget
  · subst hother
    rw [hlater, Option.some.injEq] at hknown
    rw [← hknown, hundergoes.widgetType]
    exact hcatalogued other record hrecord
  · rw [htouches.others other hother] at hknown
    exact hcatalogued other known hknown

/-- One request keeps every live widget in the catalogue. -/
theorem Catalogued.serve (hcatalogued : forest.Catalogued) (hsound : forest.Sound)
    (request : Request) : (forest.serve request).Catalogued := by
  rcases serve_entries forest request with
    ⟨widgetType, parent, args, hknown, hserve⟩ | ⟨widget, hlive, hserve⟩ | ⟨widget, henters⟩ |
      hrests
  · rw [hserve]
    exact hcatalogued.plant hsound parent args hknown
  · obtain ⟨felled, hdestroy, hfelled⟩ := hsound.destroy_felled hlive
    rw [hserve, hdestroy]
    intro other record hrecord
    rw [hfelled.record?_of_mem_live (mem_live_iff.mpr ⟨record, hrecord⟩)] at hrecord
    exact hcatalogued other record hrecord
  · exact hcatalogued.enter henters
  · intro other record hrecord
    rw [record?, widgets, hrests.slots] at hrecord
    exact hcatalogued other record hrecord

/-- Whatever is asked of the empty forest, live widgets are of classes in the catalogue. -/
theorem Reachable.catalogued (hreachable : forest.Reachable) : forest.Catalogued := by
  obtain ⟨requests, rfl⟩ := hreachable
  have hempty : empty.Catalogued := by simp [Catalogued, empty, record?, widgets, Table.get?]
  have hserved : ∀ forest : Forest, forest.Sound → forest.Catalogued →
      (forest.serveAll requests).Catalogued := by
    induction requests with
    | nil => exact fun _ _ hcatalogued => hcatalogued
    | cons request rest ih =>
      intro forest hsound hcatalogued
      exact ih _ (hsound.serve request) (hcatalogued.serve hsound request)
  exact hserved empty sound_empty hempty

end Catalogue

section Calls

/-- Checking fails only where the options name a state variable that there is not. -/
theorem check_eq_error {turn : Option Bool}
    (hcheck : forest.check record turn = (.error error, after)) :
    after = forest ∧ error = .deadVariable ∧ ∃ handle,
      record.option? "variable" = some (.stateVariable handle) ∧
        forest.valueIn? handle = none := by
  unfold check at hcheck
  split at hcheck
  · cases hcheck
  · next handle hnamed =>
    split at hcheck
    · next hdead =>
      cases hcheck
      obtain ⟨value, hvalue, hhandle⟩ := Option.bind_eq_some_iff.mp hnamed
      cases value <;> cases hhandle
      exact ⟨rfl, rfl, handle, hvalue, hdead⟩
    · cases hcheck

private theorem performLocally_eq_error {behaviour : Behaviour}
    (hperform : forest.performLocally widget record behaviour call = (.error error, after)) :
    after = forest ∧ ∃ message, error = .invalidArguments call.method message := by
  unfold performLocally at hperform
  split at hperform
  · next hrefused =>
    cases hperform
    exact ⟨rfl, Record.invalidArguments_of_perform hrefused⟩
  · cases hperform

/-- Carrying out a call changes nothing if it fails. Of the methods that do two things, one fires a
command, which cannot fail, after it has checked; the other looks at a page before it adds it. -/
theorem carryOut_eq_error
    (hcarry : forest.carryOut widget record (Behaviour.of record.widgetType call.method) call =
      (.error error, after)) :
    after = forest ∧ Failure forest record call error := by
  have hlocally : ∀ behaviour, forest.performLocally widget record behaviour call =
      (.error error, after) → after = forest ∧ Failure forest record call error := by
    intro behaviour hperform
    obtain ⟨hafter, message, rfl⟩ := performLocally_eq_error hperform
    exact ⟨hafter, .arguments message⟩
  cases hbehaviour : Behaviour.of record.widgetType call.method with
  | check turn =>
    rw [hbehaviour] at hcarry
    obtain ⟨hafter, rfl, handle, hnamed, hdead⟩ := check_eq_error hcarry
    have hchecks : (Behaviour.of record.widgetType call.method).Checks := .inl ⟨turn, hbehaviour⟩
    exact ⟨hafter, .deadVariable (Behaviour.widgetType_of_checks hchecks) hnamed hdead⟩
  | checkAndFire =>
    rw [hbehaviour, carryOut] at hcarry
    split at hcarry
    · next hcheck =>
      cases hcarry
      obtain ⟨hafter, rfl, handle, hnamed, hdead⟩ := check_eq_error hcheck
      have hchecks : (Behaviour.of record.widgetType call.method).Checks := .inr hbehaviour
      exact ⟨hafter, .deadVariable (Behaviour.widgetType_of_checks hchecks) hnamed hdead⟩
    · cases hcarry
  | fire =>
    rw [hbehaviour] at hcarry
    cases hcarry
  | addTab =>
    obtain ⟨hnotebook, hadd⟩ := Behaviour.of_eq_addTab hbehaviour
    rw [hbehaviour, carryOut] at hcarry
    split at hcarry
    · next hpage =>
      cases hcarry
      obtain ⟨page, hfirst, hdead⟩ := (Option.any_eq_true _ _).mp hpage
      obtain ⟨value, hvalue, hwidget⟩ := Option.bind_eq_some_iff.mp hfirst
      obtain ⟨rest, hrest⟩ := List.head?_eq_some_iff.mp hvalue
      cases value <;> cases hwidget
      rw [Bool.not_eq_true', ← Bool.not_eq_true, contains_iff] at hdead
      exact ⟨rfl, .deadPage hnotebook hadd hrest hdead⟩
    · exact hlocally _ hcarry
  | _ =>
    simp only [hbehaviour, carryOut] at hcarry
    exact hlocally _ hcarry

/-- Taking note of a call changes nothing that decides whether it fails. -/
theorem Failure.of_noted (hfailure : Failure (forest.noted widget call) (noteCall call record) call
    error) : Failure forest record call error := by
  cases hfailure with
  | arguments message => exact .arguments message
  | deadPage hnotebook hadd hpage hdead =>
    refine .deadPage hnotebook hadd hpage ?_
    rwa [noted, mem_live_iff, record?_log, ← mem_live_iff, live_modify] at hdead
  | deadVariable hbutton hnamed hdead => exact .deadVariable hbutton hnamed hdead

/-- A call that fails was refused, or nothing has come of it but the note. -/
theorem Catalogued.invoke_eq_error (hcatalogued : forest.Catalogued)
    (hinvoke : forest.invoke widget call = (.error error, after)) :
    Refusal forest widget call.method error ∧ after = forest ∨
    (∃ record, forest.record? widget = some record ∧ forest.accepts widget call.method = true ∧
      Failure forest record call error) ∧ after = forest.noted widget call := by
  cases hrecord : forest.record? widget with
  | none =>
    have hdead := record?_eq_none_iff.mp hrecord
    rw [(refuses_of_not_mem hdead).invoke] at hinvoke
    cases hinvoke
    exact .inl ⟨.dead hdead, rfl⟩
  | some record =>
    obtain ⟨cls, hclass⟩ := hcatalogued widget record hrecord
    have hclassOf := classOf_eq_ok_iff.mpr ⟨record, hrecord, hclass⟩
    cases hmethod : cls.hasMethod call.method with
    | false =>
      rw [invoke, hclassOf, hrecord] at hinvoke
      simp only [hmethod, Bool.false_eq_true, if_false, Prod.mk.injEq, Except.error.injEq]
        at hinvoke
      obtain ⟨rfl, rfl⟩ := hinvoke
      exact .inl ⟨.lacking hrecord hclass hmethod, rfl⟩
    | true =>
      have haccepts : forest.accepts widget call.method = true := by
        rw [accepts, hclassOf]
        exact hmethod
      rw [invoke_of_accepts hrecord haccepts] at hinvoke
      have hcarried : (forest.noted widget call).carryOut widget (noteCall call record)
          (Behaviour.of (noteCall call record).widgetType call.method) call =
            (.error error, after) := hinvoke
      obtain ⟨hafter, hfailure⟩ := carryOut_eq_error hcarried
      exact .inr ⟨⟨record, rfl, haccepts, hfailure.of_noted⟩, hafter⟩

end Calls

/-- Whatever was asked of a forest before, an operation that fails leaves the whole of it as it was,
the journal included; a method call that fails leaves the note of itself if the widget is live and
its class has the method, and nothing else. -/
theorem Reachable.failsCleanly (hreachable : forest.Reachable) : forest.FailsCleanly where
  construct := by
    intro widgetType parent args error after hfailed
    refine eq_of_refused ?_ hfailed
    obtain hrefused | ⟨-, -, hdone⟩ := construct_cases widgetType parent args forest
    · exact .inl hrefused
    · exact .inr ⟨_, _, hdone⟩
  attach := by
    intro widget strategy args error after hfailed
    refine eq_of_refused ?_ hfailed
    obtain hrefused | hdone := attach_cases widget strategy args forest
    · exact .inl hrefused
    · exact .inr ⟨_, _, hdone⟩
  setAttribute := by
    intro widget name value error after hfailed
    refine eq_of_refused ?_ hfailed
    obtain hrefused | hdone := setAttribute_cases widget name value forest
    · exact .inl hrefused
    · exact .inr ⟨_, _, hdone⟩
  destroy := by
    intro widget error after hfailed
    rw [Forest.destroy] at hfailed
    split at hfailed <;> cases hfailed
    rfl
  readVariable := by
    intro handle error after hfailed
    rw [Forest.readVariable] at hfailed
    split at hfailed <;> cases hfailed
    rfl
  writeVariable := by
    intro handle value error after hfailed
    rw [Forest.writeVariable] at hfailed
    split at hfailed <;> cases hfailed
    rfl
  invoke := fun _ _ _ _ hfailed => hreachable.catalogued.invoke_eq_error hfailed

/-- A window with a check button whose state variable was never created. -/
def strayButton : Forest := empty.serveAll
  [.construct "Tk" none [],
    .construct "Checkbutton" (some ⟨1⟩) [("variable", .stateVariable ⟨7⟩)]]

/-- Toggling it fails, and all that is left of the call is the note of it. -/
theorem strayButton_toggled : strayButton.Reachable ∧
    ∃ after, strayButton.invoke ⟨2⟩ ⟨"toggle", .none⟩ = (.error .deadVariable, after) ∧
      after = strayButton.noted ⟨2⟩ ⟨"toggle", .none⟩ := by
  have hreachable : strayButton.Reachable := ⟨_, rfl⟩
  have hinvoke : strayButton.invoke ⟨2⟩ ⟨"toggle", .none⟩ =
      (.error .deadVariable, (strayButton.invoke ⟨2⟩ ⟨"toggle", .none⟩).2) := rfl
  refine ⟨hreachable, _, hinvoke, ?_⟩
  obtain ⟨hrefusal, -⟩ | ⟨-, hafter⟩ := hreachable.failsCleanly.invoke _ _ _ _ hinvoke
  · cases hrefusal
  · exact hafter

end Forest

end WidgetTree
