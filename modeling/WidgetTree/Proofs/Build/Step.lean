import WidgetTree.Builder
import WidgetTree.Proofs.Act
import WidgetTree.Proofs.Forest.Touch
import WidgetTree.Proofs.Forest.Sound

namespace WidgetTree

open Text

/-- The place of a node in a build: the widget that is constructed for it and the reference to its
element. -/
structure Seat where
  widget : WidgetId
  ref : ElementRef

/-- The seat behind those of so many nodes. -/
def Seat.skip (seat : Seat) (nodes : Nat) : Seat :=
  ⟨⟨seat.widget.number + nodes⟩, ⟨seat.ref.index + nodes⟩⟩

/-- What steps need to know of an element. -/
structure Holder where
  node : String
  widget : Option WidgetId

/-- What steps read and change: the forest, the registry, and what has to be known of the elements
made so far. -/
structure Ledger where
  forest : Forest
  holders : List Holder
  registry : Registry

namespace Ledger

/-- The seat of the node that is built next. -/
def seat (ledger : Ledger) : Seat := ⟨ledger.forest.next, ⟨ledger.holders.length⟩⟩

/-- The id of the node of an element. -/
def nodeOf (ledger : Ledger) (ref : ElementRef) : String :=
  (ledger.holders[ref.index]?.map Holder.node).getD ""

/-- The widget of the element bound under a name. -/
def bound (ledger : Ledger) (name : String) : Option WidgetId :=
  ((ledger.registry.get? name).bind fun ref => ledger.holders[ref.index]?).bind Holder.widget

/-- The page that a child of a register makes: the widget of the element bound under its name. -/
def page (ledger : Ledger) (register : String) (child : NodeSpec) : Except BuildError WidgetId :=
  match child.binding with
  | none =>
    .error (.configuration child.id ("child of register " ++ backquote register ++
      " has no binding_name; register pages must be bound"))
  | some name =>
    match ledger.bound name with
    | none =>
      .error (.configuration child.id ("binding " ++ backquote name ++ " has no built widget"))
    | some page => .ok page

/-- Looks whether every child makes a page, up to the first that does not. -/
def checkPages (ledger : Ledger) (register : String) : List NodeSpec → Except BuildError Unit
  | [] => .ok ()
  | child :: rest =>
    match ledger.page register child with
    | .error error => .error error
    | .ok _ => checkPages ledger register rest

/-- An act on the forest. -/
def inForest {α : Type} (act : Act Forest α) : Act Ledger α :=
  ExceptT.mk fun ledger =>
    ((act.perform ledger.forest).1, { ledger with forest := (act.perform ledger.forest).2 })

/-- Adds an element, which has no widget yet. -/
def introduce (node : String) : Act Ledger Unit :=
  ExceptT.mk fun ledger =>
    (.ok (), { ledger with holders := ledger.holders ++ [⟨node, none⟩] })

/-- Gives an element its widget. -/
def house (ref : ElementRef) (node : String) (widget : WidgetId) : Act Ledger Unit :=
  ExceptT.mk fun ledger =>
    (.ok (), { ledger with holders := ledger.holders.set ref.index ⟨node, some widget⟩ })

/-- Constructs the widget of an element. -/
def construct (ref : ElementRef) (node : String) (widgetType : Option String)
    (target : Option WidgetId) (args : Fields Value) : Act Ledger Unit :=
  match widgetType with
  | none => throw (.configuration node "no widget_type declared")
  | some widgetType => do
    let widget ← inForest
      (Act.ofOperation (.toolkit node) (Forest.construct widgetType target args))
    house ref node widget

/-- A construction gives its widget to the element, which has none if it fails. -/
theorem perform_construct (ref : ElementRef) (node widgetType : String) (target : Option WidgetId)
    (args : Fields Value) (ledger : Ledger) :
    (construct ref node (some widgetType) target args).perform ledger =
      match Forest.construct widgetType target args ledger.forest with
      | (.ok widget, forest) =>
        (.ok (), { ledger with
          forest
          holders := ledger.holders.set ref.index ⟨node, some widget⟩ })
      | (.error error, forest) => (.error (.toolkit node error), { ledger with forest }) := by
  have hinside : (inForest (Act.ofOperation (.toolkit node)
      (Forest.construct widgetType target args))).perform ledger =
        ((Forest.construct widgetType target args ledger.forest).1.mapError (.toolkit node),
          { ledger with forest := (Forest.construct widgetType target args ledger.forest).2 }) := by
    rw [inForest, Act.perform_mk, Act.perform_ofOperation]
  rcases houtcome : Forest.construct widgetType target args ledger.forest with
    ⟨error | widget, after⟩
  · rw [houtcome] at hinside
    exact Act.perform_bind_error hinside _
  · rw [houtcome] at hinside
    exact Act.perform_bind_ok hinside _

/-- Binds an element under a name, which may be taken only where newer elements get it. -/
def bind (ref : ElementRef) (node name : String) (policy : BindingPolicy) : Act Ledger Unit :=
  ExceptT.mk fun ledger =>
    match ledger.registry.get? name, policy with
    | some taken, .reject =>
      (.error (.configuration node ("binding " ++ backquote name ++
        " is already taken by node " ++ backquote (ledger.nodeOf taken))), ledger)
    | _, _ => (.ok (), { ledger with registry := ledger.registry.insert name ref })

end Ledger

/-- What is done to one widget after its construction. -/
inductive Deed
  | attach (strategy : String) (args : Fields Value)
  | assign (name : String) (value : Value)
  | call (made : Call)
  /-- Makes a check button share a state variable of its own. -/
  | shareVariable

namespace Deed

/-- Makes a call in the name of a node. -/
def makeCall (node : String) (widget : WidgetId) (call : Call) : Act Forest Unit := do
  let _ ← Act.ofOperation (.ofInvoke node call.method) (Forest.invoke widget call)

/-- Does the deed in the name of a node. -/
def act (node : String) (widget : WidgetId) : Deed → Act Forest Unit
  | attach strategy args => Act.ofOperation (.ofAttach node) (Forest.attach widget strategy args)
  | assign name value => Act.ofOperation (.toolkit node) (Forest.setAttribute widget name value)
  | .call made => makeCall node widget made
  | shareVariable => do
    let status ← ExceptT.mk fun forest =>
      (.ok (Forest.createVariable (.int 0) forest).1, (Forest.createVariable (.int 0) forest).2)
    makeCall node widget (Element.shareVariable status)

/-- The method that the deed calls, if it is a call. -/
def method? : Deed → Option String
  | attach _ _ => none
  | assign _ _ => none
  | .call made => some made.method
  | shareVariable => some "configure"

/-- The entry of the journal for the deed done. -/
def entry (widget : WidgetId) : Deed → Event
  | attach strategy _ => .attached widget strategy
  | assign name _ => .attributeSet widget name
  | .call made => .invoked widget made.method
  | shareVariable => .invoked widget "configure"

end Deed

/-- One step of a build. Widgets and elements are numbered as they are made, so that the steps of a
build are known before the first is taken. -/
inductive BuildStep
  /-- Makes the element of a node and constructs its widget. -/
  | construct (seat : Seat) (node : String) (widgetType : Option String)
      (target : Option WidgetId) (args : Fields Value)
  /-- Does something to the widget of a node. -/
  | work (node : String) (widget : WidgetId) (deed : Deed)
  /-- Binds the element of a node. -/
  | bind (seat : Seat) (node name : String) (policy : BindingPolicy)
  /-- Looks at all pages of a register before the first is added. -/
  | checkPages (register : String) (children : List NodeSpec)
  /-- Adds the page that a child of a register makes. -/
  | addPage (register : String) (widget : WidgetId) (child : NodeSpec)

namespace BuildStep

/-- Takes the step. -/
def act : BuildStep → Act Ledger Unit
  | construct seat node widgetType target args => do
    Ledger.introduce node
    Ledger.construct seat.ref node widgetType target args
  | work node widget deed => Ledger.inForest (deed.act node widget)
  | bind seat node name policy => Ledger.bind seat.ref node name policy
  | checkPages register children => do
    let ledger ← get
    Act.ofExcept (ledger.checkPages register children)
  | addPage register widget child => do
    let ledger ← get
    let page ← Act.ofExcept (ledger.page register child)
    Ledger.inForest (Deed.makeCall register widget (Element.addTab child.id page))

/-- The method call that the step makes, on which widget, if it makes one. -/
def call? (ledger : Ledger) : BuildStep → Option (WidgetId × String)
  | construct .. => none
  | work _ widget deed => deed.method?.map (widget, ·)
  | bind .. => none
  | checkPages .. => none
  | addPage register widget child =>
    match ledger.page register child with
    | .ok _ => some (widget, "add")
    | .error _ => none

/-- The entries of the journal for the step taken with success. -/
def entries : BuildStep → List Event
  | construct seat _ widgetType _ _ => (widgetType.map (.constructed seat.widget ·)).toList
  | work _ widget deed => [deed.entry widget]
  | bind .. => []
  | checkPages .. => []
  | addPage _ widget _ => [.invoked widget "add"]

/-- The entries of the journal for the step when it fails: a call that was accepted is journalled
even if it fails afterwards, and nothing else is. -/
def entriesOnFailure (ledger : Ledger) (step : BuildStep) : List Event :=
  match step.call? ledger with
  | some (widget, method) =>
    if ledger.forest.accepts widget method then [.invoked widget method] else []
  | none => []

end BuildStep

/-- Takes steps up to the first that fails. -/
def takeSteps : List BuildStep → Act Ledger Unit
  | [] => pure ()
  | step :: rest => do
    step.act
    takeSteps rest

/-- Steps are taken one run after the other. -/
theorem takeSteps_append (first second : List BuildStep) :
    takeSteps (first ++ second) = takeSteps first >>= fun _ => takeSteps second := by
  induction first with
  | nil => simp [takeSteps]
  | cons step rest ih => simp [takeSteps, ih]

/-- A single step is taken as it is. -/
theorem takeSteps_singleton (step : BuildStep) : takeSteps [step] = step.act := by
  simp [takeSteps]

namespace NodeSpec

/-- The type of the node's widget: windows have a default, registers a type of their own. -/
def typeIn (config : Config) (spec : NodeSpec) : Option String :=
  match Kind.of? spec with
  | some .root => some (spec.widgetType.getD config.rootWidgetType)
  | some .register => some config.registerWidgetType
  | _ => spec.widgetType

/-- How the node's widget is attached: windows never are. -/
def attachmentIn (config : Config) (spec : NodeSpec) : Option Attachment :=
  if Kind.of? spec = some .root then none
  else (spec.attachStrategy.or config.defaultAttachStrategy).map fun strategy =>
    { strategy, args := spec.attachArgs }

/-- What places the node's widget: a window is given a geometry and a title, each if configured,
and any other widget is attached. -/
def placing (config : Config) (spec : NodeSpec) : List Deed :=
  if Kind.of? spec = some .root then
    (config.defaultGeometry.map fun text => Deed.call (Core.windowCall "geometry" text)).toList ++
      (config.defaultTitle.map fun text => Deed.call (Core.windowCall "title" text)).toList
  else
    ((spec.attachmentIn config).map fun attachment =>
      Deed.attach attachment.strategy attachment.args).toList

/-- What configures the node's widget: the attributes, then the calls of the sequence. -/
def furnishing (spec : NodeSpec) : List Deed :=
  (spec.attributes.map fun entry => Deed.assign entry.1 entry.2) ++ spec.sequenceCalls.map .call

/-- What is done to the node's widget before its children are built. -/
def deeds (config : Config) (spec : NodeSpec) : List Deed :=
  spec.placing config ++ spec.furnishing ++
    if Kind.of? spec = some .checkBox then [Deed.shareVariable] else []

/-- The steps of a node before those of its children. -/
def openingSteps (config : Config) (seat : Seat) (target : Option WidgetId) (spec : NodeSpec) :
    List BuildStep :=
  .construct seat spec.id (spec.typeIn config) target spec.constructorArgs ::
    (spec.deeds config).map (.work spec.id seat.widget) ++
    (spec.binding.map fun name =>
      BuildStep.bind seat spec.id name config.bindingPolicy).toList

/-- The steps of a node after those of its children. -/
def closingSteps (seat : Seat) (spec : NodeSpec) (children : List NodeSpec) : List BuildStep :=
  (if Kind.of? spec = some .register then
    .checkPages spec.id children :: children.map (.addPage spec.id seat.widget)
  else []) ++
    spec.hook.map fun call => .work spec.id seat.widget (.call call)

end NodeSpec

namespace NodeTree

mutual

/-- The steps in which a tree is built inside a target, its top node in a given seat. -/
def steps (config : Config) (seat : Seat) (target : Option WidgetId) : NodeTree → List BuildStep
  | node spec children =>
    spec.openingSteps config seat target ++
      stepsAll config (seat.skip 1) (some seat.widget) children ++
      spec.closingSteps seat (children.map NodeTree.spec)

/-- The steps in which several trees are built inside a target, one after the other. -/
def stepsAll (config : Config) (seat : Seat) (target : Option WidgetId) :
    List NodeTree → List BuildStep
  | [] => []
  | tree :: rest =>
    steps config seat target tree ++ stepsAll config (seat.skip tree.count) target rest

end

end NodeTree

/-- What the steps of a build see of a site. -/
def Site.ledger (site : Site Forest) : Ledger where
  forest := site.toolkit
  holders := site.elements.map fun element => ⟨element.id, element.widget⟩
  registry := site.registry

end WidgetTree
