import WidgetTree.Element.Collection

namespace WidgetTree

/-- What an element is besides its core. -/
inductive Role
  /-- A widget without further behaviour. -/
  | generic
  /-- A window. -/
  | window
  /-- A button with a command. -/
  | button
  /-- A check box with a state variable, once it is built. -/
  | checkbox (status : Option VariableId)
  /-- A notebook, with the ids of the children that were added as tabs. -/
  | register (tabs : List String)
  /-- A list of rows. -/
  | collection (collection : Collection)

namespace Role

def name : Role → String
  | generic => "generic"
  | window => "window"
  | button => "button"
  | checkbox _ => "checkbox"
  | register _ => "register"
  | collection _ => "collection"

end Role

/-- An element: a core with a role. The role decides how the widget is built, what is done once the
widgets inside it are built, and what the element can do afterwards. -/
structure Element where
  core : Core
  role : Role

namespace Element

/-- The element of a node in a role, not built yet. -/
def ofSpec (role : Role) (spec : NodeSpec) : Element := ⟨.ofSpec spec, role⟩

def id (element : Element) : String := element.core.id

def widget (element : Element) : Option WidgetId := element.core.widget

/-- The rows and their resolver, if the element is a collection. -/
def collection? (element : Element) : Option Collection :=
  match element.role with
  | .collection collection => some collection
  | _ => none

variable {σ : Type} [Toolkit σ]

/-- An act on the core. -/
def onCore {α : Type} (act : Act (Work Core σ) α) : Act (Work Element σ) α :=
  Act.onPart Element.core (fun core element => { element with core }) act

/-- Changes the role. -/
def setRole (role : Role) : Act (Work Element σ) Unit := Act.setSubject ({ · with role })

/-- The call that makes a check button share a state variable, which is 1 when it is checked and 0
when it is not. -/
def shareVariable (handle : VariableId) : Call :=
  ⟨"configure", ⟨[],
    [("variable", .stateVariable handle), ("onvalue", .int 1), ("offvalue", .int 0)]⟩⟩

/-- Builds a check box: a widget that shares a state variable, which is not checked at first. -/
def buildCheckbox (config : Config) (target : Option WidgetId) : Act (Work Element σ) Unit := do
  onCore (Core.build config target)
  let status ← Act.inToolkit <| ExceptT.mk fun toolkit =>
    let (handle, toolkit) := Toolkit.createVariable (.int 0) toolkit
    (.ok handle, toolkit)
  let _ ← onCore (Core.thenDo (·.invoke (shareVariable status)))
  setRole (.checkbox (some status))

/-- Constructs, attaches and configures the widget inside a target. -/
def build (config : Config) (target : Option WidgetId) : Act (Work Element σ) Unit := do
  let element ← Act.subject
  match element.role with
  | .generic => onCore (Core.build config target)
  | .button => onCore (Core.build config target)
  | .window => onCore (Core.buildWindow config target)
  | .checkbox _ => buildCheckbox config target
  | .register _ => onCore (Core.buildAs config target config.registerWidgetType)
  | .collection collection => do
    setRole (.collection { collection with config })
    onCore (Core.build config target)

/-- The pages of a register: for each child its id and the widget bound under its name. Every child
must have a name under which something built is bound. -/
def pages (register : String) (bound : String → Option WidgetId) :
    List NodeTree → Except BuildError (List (String × WidgetId))
  | [] => .ok []
  | child :: rest => do
    let id := child.spec.id
    match child.spec.binding with
    | none =>
      throw (.configuration id ("child of register " ++ Text.backquote register ++
        " has no binding_name; register pages must be bound"))
    | some name =>
      match bound name with
      | none =>
        throw (.configuration id ("binding " ++ Text.backquote name ++ " has no built widget"))
      | some page =>
        let others ← pages register bound rest
        return (id, page) :: others

/-- The call that adds a page to a notebook. -/
def addTab (id : String) (page : WidgetId) : Call :=
  ⟨"add", ⟨[.widget page], [("text", .string id)]⟩⟩

/-- Notes that a child was added as a tab. -/
def noteTab (id : String) (element : Element) : Element :=
  match element.role with
  | .register tabs => { element with role := .register (tabs ++ [id]) }
  | _ => element

/-- Adds pages as tabs, in order, up to the first that fails. -/
def addTabs : List (String × WidgetId) → Act (Work Element σ) Unit
  | [] => pure ()
  | (id, page) :: rest => do
    let _ ← onCore (Core.thenDo (·.invoke (addTab id page)))
    Act.setSubject (noteTab id)
    addTabs rest

/-- What is done once all children are built: a register adds them as tabs, having looked at all of
them first, and every element makes the calls that its node wants made now. -/
def postSubtree (children : List NodeTree) (bound : String → Option WidgetId) :
    Act (Work Element σ) Unit := do
  let element ← Act.subject
  match element.role with
  | .register _ => do
    let pages ← Act.ofExcept (pages element.id bound children)
    addTabs pages
  | _ => pure ()
  onCore (Core.thenDo (·.runHook))

/-- Puts back what work on the rows has left. -/
def putCollection (collection : Collection) (element : Element) : Element :=
  { element with role := .collection collection }

/-- Releases the widget. A collection releases its rows first; it releases its own widget even if
that fails, and the failure of the rows counts. -/
def destroy : Act (Work Element σ) Unit := do
  let element ← Act.subject
  match element.role with
  | .collection collection => do
    let rows ← Act.attempt (Act.onPart (fun _ => collection) putCollection Collection.clear)
    let own ← Act.attempt (onCore Core.destroy)
    Act.ofExcept rows
    Act.ofExcept own
  | _ => onCore Core.destroy

/-- The state variable of a check box, which must be built. -/
def requireStatus (element : Element) : Except BuildError VariableId :=
  match element.role with
  | .checkbox (some status) => .ok status
  | _ => .error (.configuration element.id "checkbox is not built")

/-- Whether a check box is checked. -/
def status (element : Element) : Act σ Bool := do
  let handle ← Act.ofExcept element.requireStatus
  let value ← Act.ofOperation (.toolkit element.id) (Toolkit.readVariable handle)
  return value.truthy

/-- Checks or unchecks a check box. -/
def setStatus (element : Element) (checked : Bool) : Act σ Unit := do
  let handle ← Act.ofExcept element.requireStatus
  Act.ofOperation (.toolkit element.id)
    (Toolkit.writeVariable handle (.int (if checked then 1 else 0)))

/-- Registers a fresh command and configures the widget to fire it. -/
def setCommand (element : Element) : Act σ CommandId := do
  let command ← ExceptT.mk fun toolkit =>
    let (handle, toolkit) := Toolkit.registerCommand toolkit
    (.ok handle, toolkit)
  let _ ← element.core.invoke ⟨"configure", ⟨[], [("command", .command command)]⟩⟩
  return command

end Element

end WidgetTree
