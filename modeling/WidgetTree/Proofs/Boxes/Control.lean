import WidgetTree.Element.Basic
import WidgetTree.Proofs.Rows.Tick

namespace WidgetTree

/-- What is done to a control: it is checked or unchecked, or one of the methods is called that a
check button has for its state. -/
inductive Control.Operation
  | set (checked : Bool)
  | call (made : Call) (hmethod : made.method ∈ tickMethods)

namespace Control.Operation

/-- Whether a control is checked after an operation. -/
def onStatus (operation : Operation) (checked : Bool) : Bool :=
  match operation with
  | set checked => checked
  | call made _ => ticked made.method checked

/-- The value to which an operation brings the state variable that a widget names. -/
def onValue (operation : Operation) (record : Record) (current : Value) : Value :=
  match operation with
  | set checked => .ofChecked checked
  | call made _ =>
    (Behaviour.of record.widgetType made.method).switch record.onValue record.offValue current

/-- The variable of a check button that writes 1 and 0 goes to what the operation is named for. -/
theorem onValue_of_button (operation : Operation) {record : Record}
    (hbutton : record.widgetType = "Checkbutton") (hon : record.onValue = .int 1)
    (hoff : record.offValue = .int 0) (checked : Bool) :
    operation.onValue record (.ofChecked checked) = .ofChecked (operation.onStatus checked) := by
  cases operation with
  | set => rfl
  | call made hmethod =>
    rw [onValue, hbutton, hon, hoff]
    exact Behaviour.switch_ofChecked hmethod checked

end Control.Operation

/-- The methods that a check button has for its state give no widget options. -/
theorem Behaviour.keepsOptions_of_tickMethods {method : String} (hmethod : method ∈ tickMethods)
    (widgetType : String) : (of widgetType method).KeepsOptions := by
  simp only [tickMethods, List.mem_cons, List.not_mem_nil, or_false] at hmethod
  unfold of KeepsOptions
  rcases hmethod with rfl | rfl | rfl | rfl <;> split <;> simp_all

/-- A check box, or a row with a check button. -/
inductive Control
  | box (element : Element)
  | row (row : Row)

namespace Control

/-- The core that holds the control's widget. -/
def core : Control → Core
  | .box element => element.core
  | .row line => line.content

/-- The control's state variable, if it has one. -/
def status? : Control → Option VariableId
  | .box element =>
    match element.role with
    | .checkbox status => status
    | _ => none
  | .row line => line.state

section Acts

variable {σ : Type} [Toolkit σ]

def set (control : Control) (checked : Bool) : Act σ Unit :=
  match control with
  | .box element => element.setStatus checked
  | .row line => line.setChecked checked

def operate (control : Control) : Operation → Act σ Unit
  | .set checked => control.set checked
  | .call made _ => do
    let _ ← control.core.invoke made

end Acts

variable {control : Control} {element : Element} {forest : Forest} {widget : WidgetId}
variable {handle : VariableId} {record : Record} {current : Value}

private theorem requireStatus_eq (hstatus : (box element).status? = some handle) :
    element.requireStatus = .ok handle := by
  obtain ⟨core, role⟩ := element
  cases role with
  | checkbox status =>
    obtain rfl : status = some handle := hstatus
    rfl
  | _ => cases hstatus

/-- A check box is checked as its variable says. -/
theorem perform_status_of_held (hstatus : (box element).status? = some handle)
    (hheld : forest.valueIn? handle = some current) :
    element.status.perform forest = (.ok current.truthy, forest) := by
  rw [Element.status, requireStatus_eq hstatus, Act.perform_bind_ok (Act.perform_ofExcept _ _),
    Act.perform_bind_ok (Forest.perform_readVariable hheld _)]
  rfl

/-- Checking a control or unchecking it writes 1 or 0 to its variable. -/
theorem perform_set_of_held (hstatus : control.status? = some handle)
    (hheld : forest.valueIn? handle = some current) (checked : Bool) :
    (control.set checked).perform forest =
      (.ok (), (forest.writeVariable handle (.ofChecked checked)).2) := by
  cases control with
  | row line => exact Row.perform_setChecked_of_held hheld hstatus checked
  | box element =>
    rw [set, Element.setStatus, requireStatus_eq hstatus,
      Act.perform_bind_ok (Act.perform_ofExcept _ _)]
    exact Forest.perform_writeVariable hheld _ _

/-- Operating a control whose widget names its variable reaches no other variable. -/
theorem operate_switches (hwidget : control.core.widget = some widget)
    (hstatus : control.status? = some handle) (hrecord : forest.record? widget = some record)
    (hnames : record.Names handle) (hheld : forest.valueIn? handle = some current)
    (operation : Operation) :
    Forest.Switches widget handle (operation.onValue record current) forest
      ((control.operate operation).perform forest).2 := by
  cases operation with
  | set checked =>
    rw [operate, perform_set_of_held hstatus hheld]
    exact Forest.writeVariable_switches hheld (.ofChecked checked) widget
  | call made hmethod =>
    rw [operate, Act.perform_discard, Core.perform_invoke hwidget]
    exact Forest.invoke_switches hrecord hnames hheld rfl
      (Behaviour.keepsOptions_of_tickMethods hmethod record.widgetType)

end Control

end WidgetTree
