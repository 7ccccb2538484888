import WidgetTree.Element.Core
import WidgetTree.Kind

namespace WidgetTree

/-- What is asked of a new row. -/
structure RowSpec where
  /-- The id of the row's content. -/
  id : String
  /-- The text that the row shows. -/
  text : String
  /-- Further constructor arguments of the content. -/
  args : Fields Value := []

namespace RowSpec

/-- The node of a row's container, if the strategy does not choose another: a frame below the one
before, as wide as there is room. -/
def container (spec : RowSpec) : NodeSpec :=
  { id := spec.id ++ ":container"
    widgetType := some "Frame"
    attachStrategy := some "pack"
    attachArgs := [("fill", .string "x"), ("side", .string "top"), ("expand", .bool false)] }

/-- The node of a content that shows the row's text at the left of its container. -/
def content (spec : RowSpec) (widgetType : String) : NodeSpec :=
  { id := spec.id
    widgetType := some widgetType
    attachStrategy := some "pack"
    constructorArgs := Table.insertAll [("text", .string spec.text)] spec.args
    attachArgs := [("side", .string "left"), ("expand", .bool false)] }

end RowSpec

/-- The content of a row, once a strategy has come to it: its node, and the row's state variable, if
it has one. -/
structure RowContent where
  node : NodeSpec
  state : Option VariableId := none

/-- How a collection makes its rows. A row is a content widget inside a container of its own; most
strategies choose the content alone. -/
structure RowStrategy where
  name : String
  /-- Whether rows have a checked state. -/
  checkable : Bool := false
  /-- The node of a row's container. -/
  container : RowSpec → NodeSpec := RowSpec.container
  /-- The content of a row. The strategy may use the toolkit to come to it. -/
  content : RowSpec → Script RowContent

namespace RowStrategy

/-- Rows of plain text. -/
def label : RowStrategy where
  name := "label"
  content spec := .done { node := spec.content "Label" }

/-- The node of a check button that shows the row's text and shares the row's state variable. -/
def checkButton (spec : RowSpec) (handle : VariableId) : NodeSpec :=
  (spec.content "Checkbutton").withConstructorArg "variable" (.stateVariable handle)

/-- Rows with a check button each, which is checked at first. -/
def checkbox : RowStrategy where
  name := "checkbox"
  checkable := true
  content spec := .ask (.createVariable (.int 1)) fun handle =>
    .done { node := checkButton spec handle, state := some handle }

end RowStrategy

/-- The strategies of the kinds of collection. A kind without one cannot have rows. -/
abbrev RowResolver := Table Kind RowStrategy

namespace RowResolver

/-- The strategies of the built-in kinds. -/
def standard : RowResolver :=
  [(.listBox, .label), (.listBoxTables, .label), (.listBoxCheckboxes, .checkbox)]

/-- The strategy of a kind. -/
def resolve (resolver : RowResolver) (kind : Kind) : Except BuildError RowStrategy :=
  match resolver.get? kind with
  | some strategy => .ok strategy
  | none => .error (.resolution .rowStrategy kind.tag)

/-- The resolver as a listing of kinds with the names of their strategies. -/
def listing (resolver : RowResolver) : String :=
  let entries := resolver.map fun (kind, strategy) => kind.label ++ ": " ++ Text.quote strategy.name
  "\x7b" ++ ", ".intercalate entries ++ "\x7d"

end RowResolver

/-- A row that was built. -/
structure Row where
  container : Core
  content : Core
  text : String
  /-- The row's state variable, if it has one. -/
  state : Option VariableId

namespace Row

def id (row : Row) : String := row.content.id

variable {σ : Type} [Toolkit σ]

/-- Whether the row is checked; nothing for a row without state. -/
def isChecked (row : Row) : Act σ (Option Bool) :=
  match row.state with
  | none => return none
  | some handle => do
    let value ← Act.ofOperation (.toolkit row.id) (Toolkit.readVariable handle)
    return some value.truthy

/-- Checks or unchecks the row, which must have state. -/
def setChecked (row : Row) (checked : Bool) : Act σ Unit :=
  match row.state with
  | none => throw (.configuration row.id "row has no checked state")
  | some handle =>
    Act.ofOperation (.toolkit row.id)
      (Toolkit.writeVariable handle (.int (if checked then 1 else 0)))

/-- Releases the content and then the container, even if the content fails to go. -/
def destroy (row : Row) : Act σ Unit := do
  let content ← Act.attempt (Act.onOwn row.content Core.destroy)
  let container ← Act.attempt (Act.onOwn row.container Core.destroy)
  let _ ← Act.ofExcept content
  let _ ← Act.ofExcept container

end Row

end WidgetTree
