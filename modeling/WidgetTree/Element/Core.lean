import WidgetTree.Config
import WidgetTree.Element.Act
import WidgetTree.Node.Tree

namespace WidgetTree

/-- How far an element has come. -/
inductive Lifecycle
  /-- It was never built with success. -/
  | created
  /-- Its widget was constructed, attached and configured. -/
  | built
  /-- Its widget was released. -/
  | destroyed
deriving DecidableEq

namespace Lifecycle

def name : Lifecycle → String
  | created => "created"
  | built => "built"
  | destroyed => "destroyed"

end Lifecycle

/-- What all kinds of element share. An element wraps one widget. -/
structure Core where
  spec : NodeSpec
  /-- The widget, if there is one. -/
  widget : Option WidgetId := none
  /-- The widget that the element was built inside. -/
  target : Option WidgetId := none
  state : Lifecycle := .created

namespace Core

/-- The core of an element that was not built yet. -/
def ofSpec (spec : NodeSpec) : Core := { spec }

def id (core : Core) : String := core.spec.id

/-- The widget, which must be there. -/
def requireWidget (core : Core) : Except BuildError WidgetId :=
  match core.widget with
  | some widget => .ok widget
  | none => .error (.configuration core.id "element has no widget (not built or destroyed)")

variable {σ : Type} [Toolkit σ]

/-- Makes one call on a widget, in the name of a node. -/
def call (node : String) (widget : WidgetId) (call : Call) : Act σ Value :=
  Act.ofOperation (.ofInvoke node call.method) (Toolkit.invoke widget call)

/-- Makes calls on a widget up to the first that fails. -/
def callAll (node : String) (widget : WidgetId) : List Call → Act σ Unit
  | [] => pure ()
  | first :: rest => do
    let _ ← call node widget first
    callAll node widget rest

/-- Assigns attributes of a widget up to the first that fails. -/
def assignAll (node : String) (widget : WidgetId) : Fields Value → Act σ Unit
  | [] => pure ()
  | (name, value) :: rest => do
    Act.ofOperation (.toolkit node) (Toolkit.setAttribute widget name value)
    assignAll node widget rest

/-- Makes one call on the element's widget. -/
def invoke (core : Core) (call : Call) : Act σ Value := do
  let widget ← Act.ofExcept core.requireWidget
  Core.call core.id widget call

/-- Attaches the widget as the node or else the configuration says; if neither does, it stays
unattached. -/
def attach (core : Core) (config : Config) : Act σ Unit := do
  let widget ← Act.ofExcept core.requireWidget
  match core.spec.attachStrategy.or config.defaultAttachStrategy with
  | none => pure ()
  | some strategy =>
    Act.ofOperation (.ofAttach core.id) (Toolkit.attach widget strategy core.spec.attachArgs)

/-- Assigns the node's attributes. -/
def assignAttributes (core : Core) : Act σ Unit := do
  let widget ← Act.ofExcept core.requireWidget
  assignAll core.id widget core.spec.attributes

/-- Makes the calls of the node's configuration sequence. -/
def applySequence (core : Core) : Act σ Unit :=
  match core.spec.sequence with
  | none => pure ()
  | some sequence => do
    let widget ← Act.ofExcept core.requireWidget
    callAll core.id widget sequence.calls

/-- Assigns the node's attributes, then makes the calls of its configuration sequence. -/
def configure (core : Core) : Act σ Unit := do
  core.assignAttributes
  core.applySequence

/-- Makes the calls that the node wants made once all its children are built. -/
def runHook (core : Core) : Act σ Unit :=
  match core.spec.hook with
  | [] => pure ()
  | calls => do
    let widget ← Act.ofExcept core.requireWidget
    callAll core.id widget calls

/-- Constructs the widget inside a target. -/
def construct (widgetType : String) (target : Option WidgetId) : Act (Work Core σ) WidgetId := do
  let core ← Act.subject
  let widget ← Act.inToolkit <| Act.ofOperation (.toolkit core.id)
    (Toolkit.construct widgetType target core.spec.constructorArgs)
  Act.setSubject ({ · with widget := some widget, target })
  return widget

/-- An act that looks at the core and works on the toolkit alone. -/
def thenDo {α : Type} (act : Core → Act σ α) : Act (Work Core σ) α := do
  let core ← Act.subject
  Act.inToolkit (act core)

/-- The element counts as built from here on. -/
def markBuilt : Act (Work Core σ) Unit := Act.setSubject ({ · with state := .built })

/-- Constructs, attaches and configures a widget of the given type. -/
def buildAs (config : Config) (target : Option WidgetId) (widgetType : String) :
    Act (Work Core σ) Unit := do
  let _ ← construct widgetType target
  thenDo (·.attach config)
  thenDo (·.configure)
  markBuilt

/-- Builds a widget of the type that the node declares. -/
def build (config : Config) (target : Option WidgetId) : Act (Work Core σ) Unit := do
  let core ← Act.subject
  match core.spec.widgetType with
  | none => throw (.configuration core.id "no widget_type declared")
  | some widgetType => buildAs config target widgetType

/-- The call that gives a window a geometry or a title. -/
def windowCall (method text : String) : Call := ⟨method, ⟨[.string text], []⟩⟩

/-- Calls a method of a window with a text, if there is one. -/
def callWith (method : String) (text : Option String) (core : Core) : Act σ Unit :=
  match text with
  | none => pure ()
  | some text => do
    let _ ← core.invoke (windowCall method text)

/-- Builds a window: constructed, given the configured geometry and title, and configured; never
attached. -/
def buildWindow (config : Config) (target : Option WidgetId) : Act (Work Core σ) Unit := do
  let core ← Act.subject
  let _ ← construct (core.spec.widgetType.getD config.rootWidgetType) target
  thenDo (callWith "geometry" config.defaultGeometry)
  thenDo (callWith "title" config.defaultTitle)
  thenDo (·.configure)
  markBuilt

/-- Releases the widget, if there is one. A widget that went with another counts as released; one
that the toolkit fails to destroy stays with the element. -/
def destroy : Act (Work Core σ) Unit := do
  let core ← Act.subject
  match core.widget with
  | none => pure ()
  | some widget =>
    Act.inToolkit <| ExceptT.mk fun toolkit =>
      match Toolkit.destroy widget toolkit with
      | (.ok (), toolkit) => (.ok (), toolkit)
      | (.error .deadWidget, toolkit) => (.ok (), toolkit)
      | (.error error, toolkit) => (.error (.toolkit core.id error), toolkit)
  Act.setSubject ({ · with widget := none, state := .destroyed })

end Core

end WidgetTree
