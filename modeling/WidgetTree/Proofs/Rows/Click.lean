import WidgetTree.Proofs.Rows.Made
import WidgetTree.Proofs.Rows.Tick

namespace WidgetTree

/-- The methods that give the options of a widget their values. -/
def configureMethods : List String := ["configure", "config"]

/-- What is done to a row with a check button: it is checked or unchecked, or a method of its button
is called, whichever but one that gives options values. -/
inductive Click
  | set (checked : Bool)
  | call (made : Call) (hkeeps : made.method ∉ configureMethods)

namespace Row

def click {σ : Type} [Toolkit σ] (row : Row) : Click → Act σ Unit
  | .set checked => row.setChecked checked
  | .call made _ => do
    let _ ← row.content.invoke made

/-- The forest after clicks on a row, whether or not they succeed. -/
def clicked (row : Row) (forest : Forest) (clicks : List Click) : Forest :=
  clicks.foldl (fun forest click => ((row.click click).perform forest).2) forest

/-- In this forest, each method of the row's check button that concerns its state succeeds and does
to it what it is named for. -/
def Obeys (row : Row) (forest : Forest) : Prop :=
  ∃ checked, row.isChecked.perform forest = (.ok (some checked), forest) ∧
    ∀ made : Call, made.method ∈ tickMethods → ∃ after,
      (row.content.invoke made).perform forest = (.ok .null, after) ∧
        row.isChecked.perform after = (.ok (some (ticked made.method checked)), after)

/-- The row's check button is live, names the row's state variable and writes these values to it,
and the variable holds this value. -/
structure Carries (forest : Forest) (row : Row) (button : WidgetId) (handle : VariableId)
    (on off value : Value) : Prop where
  content : row.content.widget = some button
  state : row.state = some handle
  shows : forest.Shows button handle on off value

end Row

namespace Value

/-- Whether a check button that is told to write 1 when it is checked takes the value for on, as
those do that the row takes it from. -/
def Settled (value : Value) : Prop := value.same (.int 1) = value.truthy

private theorem same_one_of_falsy {value : Value} (hfalsy : value.truthy = false) :
    value.same (.int 1) = false := by
  cases value with
  | int number =>
    have hzero : number = 0 := by simpa [truthy] using hfalsy
    simp [same, hzero]
  | null | bool | float | string | list | mapping | widget | stateVariable | command => rfl

private theorem settled_of_falsy {value : Value} (hfalsy : value.truthy = false) :
    value.Settled := by
  rw [Settled, hfalsy]
  exact same_one_of_falsy hfalsy

private theorem settled_ofChecked (checked : Bool) : (ofChecked checked).Settled := by
  rw [Settled, same_ofChecked, truthy_ofChecked]

private theorem one_same_iff {value : Value} :
    (Value.int 1).same value = true ↔ value = .int 1 := by
  cases value with
  | int number =>
    rw [Value.int.injEq, eq_comm (a := number)]
    simp [same]
  | null | bool | float | string | list | mapping | widget | stateVariable | command => simp [same]

end Value

namespace Behaviour

/-- No method of a check button gives options values but those that every widget has. -/
theorem keepsOptions_of_button {method : String} (hmethod : method ∉ configureMethods) :
    (of "Checkbutton" method).KeepsOptions := by
  unfold of KeepsOptions
  split <;> simp_all [configureMethods]

private theorem not_mem_configureMethods {method : String} (hmethod : method ∈ tickMethods) :
    method ∉ configureMethods := by
  simp only [tickMethods, List.mem_cons, List.not_mem_nil, or_false] at hmethod
  rcases hmethod with rfl | rfl | rfl | rfl <;> decide

/-- Whatever the method, the variable is left with one of the two values or as it is. -/
theorem switch_cases (behaviour : Behaviour) (on off value : Value) :
    behaviour.switch on off value = on ∨ behaviour.switch on off value = off ∨
      behaviour.switch on off value = value := by
  unfold switch
  split
  · split
    · exact .inl rfl
    · exact .inr (.inl rfl)
  · split
    · exact .inl rfl
    · exact .inr (.inl rfl)
  · exact .inr (.inr rfl)

/-- A check button that writes 1 and something false switches a settled value as its methods are
named. -/
theorem truthy_switch {off value : Value} (hoff : off.truthy = false) (hsettled : value.Settled)
    {method : String} (hmethod : method ∈ tickMethods) :
    ((of "Checkbutton" method).switch (.int 1) off value).truthy = ticked method value.truthy := by
  have htoggled : (if !value.same (.int 1) then Value.int 1 else off).truthy = !value.truthy := by
    rw [show value.same (.int 1) = value.truthy from hsettled]
    cases value.truthy with
    | true => exact hoff
    | false => rfl
  simp only [tickMethods, List.mem_cons, List.not_mem_nil, or_false] at hmethod
  rcases hmethod with rfl | rfl | rfl | rfl
  · rfl
  · exact hoff
  · exact htoggled
  · exact htoggled

end Behaviour

namespace Row.Carries

variable {forest : Forest} {row : Row} {button : WidgetId} {handle : VariableId}
variable {on off value : Value} (hcarries : Carries forest row button handle on off value)
include hcarries

private theorem isChecked : row.isChecked.perform forest = (.ok (some value.truthy), forest) :=
  perform_isChecked_of_held hcarries.shows.held hcarries.state

/-- Checking the row or unchecking it writes 1 or 0, whatever its button is told to write. -/
theorem set (checked : Bool) :
    Carries ((row.setChecked checked).perform forest).2 row button handle on off
      (.ofChecked checked) := by
  rw [perform_setChecked_of_held hcarries.shows.held hcarries.state]
  have hshows := hcarries.shows.switches
    (Forest.writeVariable_switches hcarries.shows.held (.ofChecked checked) button)
  exact ⟨hcarries.content, hcarries.state, hshows⟩

/-- A call switches the value as its method is named. -/
theorem call {made : Call} (hkeeps : made.method ∉ configureMethods) :
    Carries ((row.content.invoke made).perform forest).2 row button handle on off
      ((Behaviour.of "Checkbutton" made.method).switch on off value) := by
  have hshows := hcarries.shows.invoke (Behaviour.keepsOptions_of_button hkeeps)
  rw [Core.perform_invoke hcarries.content]
  exact ⟨hcarries.content, hcarries.state, hshows⟩

private theorem call_ok {made : Call} (hmethod : made.method ∈ tickMethods) :
    ((row.content.invoke made).perform forest).1 = .ok .null := by
  rw [Core.perform_invoke hcarries.content,
    hcarries.shows.invoke_ok (Behaviour.checks_of_tickMethods hmethod)]
  rfl

/-- One click leaves the row with a settled value if it had one. -/
theorem click (hon : on = .int 1) (hoff : off.truthy = false) (hsettled : value.Settled)
    (click : Click) : ∃ next : Value, next.Settled ∧
      Carries ((row.click click).perform forest).2 row button handle on off next := by
  cases click with
  | set checked => exact ⟨_, Value.settled_ofChecked checked, hcarries.set checked⟩
  | call made hkeeps =>
    rw [Row.click, Act.perform_discard]
    refine ⟨_, ?_, hcarries.call hkeeps⟩
    rcases (Behaviour.of "Checkbutton" made.method).switch_cases on off value with
      heq | heq | heq
    · rw [heq, hon]
      exact Value.settled_ofChecked true
    · rw [heq]
      exact Value.settled_of_falsy hoff
    · rw [heq]
      exact hsettled

/-- However often the row is clicked, its value stays settled. -/
theorem clicked (hon : on = .int 1) (hoff : off.truthy = false) (hsettled : value.Settled)
    (clicks : List Click) : ∃ next : Value, next.Settled ∧
      Carries (row.clicked forest clicks) row button handle on off next := by
  induction clicks generalizing forest value with
  | nil => exact ⟨value, hsettled, hcarries⟩
  | cons first rest ih =>
    obtain ⟨next, hnext, hleft⟩ := hcarries.click hon hoff hsettled first
    exact ih hleft hnext

/-- With a settled value the row does what the methods of its button are named for. -/
theorem obeys (hon : on = .int 1) (hoff : off.truthy = false) (hsettled : value.Settled) :
    row.Obeys forest := by
  subst hon
  refine ⟨value.truthy, hcarries.isChecked, fun made hmethod => ?_⟩
  have hcalled := hcarries.call (Behaviour.not_mem_configureMethods hmethod)
  refine ⟨_, Prod.ext (hcarries.call_ok hmethod) rfl, ?_⟩
  rw [hcalled.isChecked, Behaviour.truthy_switch hoff hsettled hmethod]

/-- A row whose variable holds 1 shows by its methods what its button writes: only with 1 for on
does toggling take it off, and only with something false for off is it unchecked then. -/
theorem of_obeys (hvalue : value = .int 1) (hobeys : row.Obeys forest) :
    on = .int 1 ∧ off.truthy = false := by
  obtain ⟨checked, hchecked, hmethods⟩ := hobeys
  have htrue : checked = true := by
    rw [hcarries.isChecked, hvalue] at hchecked
    cases hchecked
    rfl
  subst htrue
  have hshown (method : String) (hmethod : method ∈ tickMethods) :
      ((Behaviour.of "Checkbutton" method).switch on off (.int 1)).truthy = ticked method true := by
    let made : Call := ⟨method, .none⟩
    have hkeeps : made.method ∉ configureMethods := Behaviour.not_mem_configureMethods hmethod
    have hcalled := hcarries.call hkeeps
    obtain ⟨after, hafter, hticked⟩ := hmethods made hmethod
    rw [hafter] at hcalled
    rw [hcalled.isChecked, hvalue] at hticked
    exact Option.some.inj (Except.ok.inj (Prod.mk.inj hticked).1)
  have hselect : on.truthy = true := hshown "select" (by decide)
  have hdeselect : off.truthy = false := hshown "deselect" (by decide)
  have htoggle : (if !(Value.int 1).same on then on else off).truthy = false :=
    hshown "toggle" (by decide)
  refine ⟨?_, hdeselect⟩
  cases hsame : (Value.int 1).same on with
  | true => exact Value.one_same_iff.mp hsame
  | false =>
    rw [hsame] at htoggle
    change on.truthy = false at htoggle
    rw [hselect] at htoggle
    cases htoggle

end Row.Carries

namespace Collection

variable {forest left : Forest} {core : Core} {collection after : Collection}
variable {spec : RowSpec} {row : Row}

/-- A row that was just added carries what it was asked for, and its variable holds 1. -/
theorem carries_of_addRowWith (hsound : forest.Sound)
    (hresolve : collection.resolver.resolve (kind core) = .ok .checkbox)
    (hadd : (addRowWith core spec).perform ⟨collection, forest⟩ = (.ok row, ⟨after, left⟩)) :
    row.Carries left forest.rowButton forest.freshVariable spec.onValue spec.offValue (.int 1) := by
  rcases addRowWith_checkbox_cases hsound hresolve spec with
    ⟨error, hrefused⟩ | ⟨parent, hlive, hrow⟩
  · rw [hrefused] at hadd
    cases hadd
  · rw [hrow] at hadd
    cases hadd
    obtain ⟨record, hrecord, hmade⟩ := Forest.record?_rowButton hsound hlive spec
    refine ⟨?_, ?_, ⟨record, hrecord, hmade.widgetType, hmade.names, hmade.onValue_eq,
      hmade.offValue_eq⟩, ?_⟩
    · rw [Forest.makeRow_eq]
      rfl
    · rw [Forest.makeRow_eq]
      rfl
    · rw [Forest.valueIn?_makeRow, if_pos rfl]

/-- A row that is added to a collection whose rows are check buttons is checked at first, whatever
arguments are asked for. After any clicks the methods of its button select, unselect and toggle it,
just if 1 or nothing is asked for as the on value and something false or nothing as the off
value. -/
theorem clicks_obeyed_iff (hreachable : forest.Reachable)
    (hresolve : collection.resolver.resolve (kind core) = .ok .checkbox)
    (hadd : (addRowWith core spec).perform ⟨collection, forest⟩ = (.ok row, ⟨after, left⟩)) :
    row.isChecked.perform left = (.ok (some true), left) ∧
    ((∀ clicks, row.Obeys (row.clicked left clicks)) ↔
      spec.onValue = .int 1 ∧ spec.offValue.truthy = false) := by
  have hcarries := carries_of_addRowWith hreachable.sound hresolve hadd
  refine ⟨hcarries.isChecked, fun hobeys => hcarries.of_obeys rfl (hobeys []), ?_⟩
  rintro ⟨hon, hoff⟩ clicks
  obtain ⟨value, hsettled, hclicked⟩ :=
    hcarries.clicked hon hoff (Value.settled_ofChecked true) clicks
  exact hclicked.obeys hon hoff hsettled

/-- A window with a list box of check buttons that has no rows yet. -/
def emptyList : Core × Collection × Forest :=
  ({ spec := { id := "list", kind := some "ListBoxCheckboxes", widgetType := some "Frame" },
     widget := some ⟨2⟩, target := some ⟨1⟩, state := .built },
    {},
    Forest.empty.serveAll [.construct "Tk" none [], .construct "Frame" (some ⟨1⟩) []])

/-- A row of this list, with these arguments. -/
def rowAsking (args : Fields Value) : RowSpec := { id := "row", text := "Row", args }

private theorem addRowWith_emptyList (args : Fields Value) :
    (addRowWith emptyList.1 (rowAsking args)).perform ⟨emptyList.2.1, emptyList.2.2⟩ =
      (.ok (emptyList.2.2.makeRow .checkbox "Checkbutton" ⟨2⟩ (rowAsking args)).1,
        ⟨{ rows := [(emptyList.2.2.makeRow .checkbox "Checkbutton" ⟨2⟩ (rowAsking args)).1] },
          (emptyList.2.2.makeRow .checkbox "Checkbutton" ⟨2⟩ (rowAsking args)).2⟩) := by
  have hreachable : emptyList.2.2.Reachable := ⟨_, rfl⟩
  exact perform_addRowWith_of_live hreachable.sound rfl RowStrategy.plain_checkbox rfl (by decide) _

/-- A row that writes an empty text when it is unchecked obeys its methods. -/
theorem clicks_obeyed_with_empty_text :
    let made := emptyList.2.2.makeRow .checkbox "Checkbutton" ⟨2⟩
      (rowAsking [("offvalue", .string "")])
    emptyList.2.2.Reachable ∧
      emptyList.2.1.resolver.resolve (kind emptyList.1) = .ok .checkbox ∧
      made.1.isChecked.perform made.2 = (.ok (some true), made.2) ∧
      ∀ clicks, made.1.Obeys (made.1.clicked made.2 clicks) := by
  intro made
  have hreachable : emptyList.2.2.Reachable := ⟨_, rfl⟩
  obtain ⟨hchecked, hobeys⟩ :=
    clicks_obeyed_iff hreachable rfl (addRowWith_emptyList [("offvalue", .string "")])
  exact ⟨hreachable, rfl, hchecked, hobeys.mpr ⟨rfl, rfl⟩⟩

/-- A row that writes a text when it is unchecked stays checked when it is. -/
theorem deselected_row_with_text_is_checked :
    let made := emptyList.2.2.makeRow .checkbox "Checkbutton" ⟨2⟩
      (rowAsking [("offvalue", .string "no")])
    let deselected := (made.1.content.invoke ⟨"deselect", .none⟩).perform made.2
    (addRowWith emptyList.1 (rowAsking [("offvalue", .string "no")])).perform
        ⟨emptyList.2.1, emptyList.2.2⟩ = (.ok made.1, ⟨{ rows := [made.1] }, made.2⟩) ∧
      deselected.1 = .ok .null ∧
      made.1.isChecked.perform deselected.2 = (.ok (some true), deselected.2) := by
  intro made deselected
  exact ⟨addRowWith_emptyList _, rfl, rfl⟩

end Collection

end WidgetTree
