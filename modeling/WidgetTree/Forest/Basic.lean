import WidgetTree.Call

namespace WidgetTree

/-- How a widget is attached to its parent's layout. -/
structure Attachment where
  strategy : String
  args : Fields Value

/-- A page of a notebook. -/
structure Tab where
  page : WidgetId
  text : String

/-- All that is known of a widget. -/
structure Record where
  widgetType : String
  /-- The widget that it was constructed inside; none for a root. -/
  parent : Option WidgetId
  constructorArgs : Fields Value
  /-- How it was attached last. -/
  attachment : Option Attachment := none
  /-- The attributes that were assigned. -/
  attributes : Fields Value := []
  /-- The options that were configured. -/
  options : Fields Value := []
  /-- The calls that were made, in order. -/
  calls : List Call := []
  /-- The pages of a notebook. -/
  tabs : List Tab := []
  /-- The text of an entry. -/
  text : String := ""
  /-- The items of a list box. -/
  items : List Value := []

namespace Record

/-- An option counts as configured last, or else as the constructor was told. -/
def option? (record : Record) (name : String) : Option Value :=
  (record.options.get? name).or (record.constructorArgs.get? name)

/-- The names of the options: those that the constructor was told, then the others in the order in
which they were first configured. -/
def optionNames (record : Record) : List String :=
  record.constructorArgs.keys ++
    record.options.keys.filter fun name => !record.constructorArgs.has name

end Record

/-- An entry of the journal, which lists what was done. -/
inductive Event
  | constructed (widget : WidgetId) (widgetType : String)
  | attached (widget : WidgetId) (strategy : String)
  | attributeSet (widget : WidgetId) (name : String)
  | invoked (widget : WidgetId) (method : String)
  | destroyed (widget : WidgetId)
deriving DecidableEq

/-- A forest of widgets, with the state variables and commands that they use. Widgets are numbered
in the order of their construction. They live in the slots of an arena: a new widget takes the slot
that was freed last, or a new slot if none is free. -/
structure Forest where
  /-- How many widgets were ever constructed. -/
  constructed : Nat := 0
  /-- The arena: in each slot a live widget, or nothing. -/
  slots : List (Option (WidgetId × Record)) := []
  /-- The free slots, the one freed last in front. -/
  free : List Nat := []
  /-- The widgets inside each live widget, in the order of their construction. -/
  childLists : Table WidgetId (List WidgetId) := []
  /-- The live widgets without a parent, in the order of their construction. -/
  roots : List WidgetId := []
  /-- The values of the state variables, in the order of their creation. -/
  heldValues : List Value := []
  /-- How many commands were registered. -/
  commands : Nat := 0
  /-- The commands that were fired, in order. -/
  fired : List CommandId := []
  /-- The journal. -/
  history : List Event := []

instance : Inhabited Forest := ⟨{}⟩

namespace Forest

/-- The forest in which nothing was ever done. -/
def empty : Forest := {}

/-- The live widgets with their records, in the order of their slots. -/
def widgets (forest : Forest) : Table WidgetId Record := forest.slots.filterMap id

/-- The live widgets, in the order of their slots. -/
def live (forest : Forest) : List WidgetId := forest.widgets.keys

/-- The record of a live widget. -/
def record? (forest : Forest) (widget : WidgetId) : Option Record := forest.widgets.get? widget

/-- Whether the widget is live. -/
def contains (forest : Forest) (widget : WidgetId) : Bool := (forest.record? widget).isSome

/-- The parent of a live widget. -/
def parent? (forest : Forest) (widget : WidgetId) : Option WidgetId :=
  (forest.record? widget).bind (·.parent)

/-- The widgets inside a widget; none if it is not live. -/
def children (forest : Forest) (widget : WidgetId) : List WidgetId :=
  (forest.childLists.get? widget).getD []

/-- Changes the record of a live widget. -/
def modify (forest : Forest) (widget : WidgetId) (change : Record → Record) : Forest :=
  { forest with
    slots := forest.slots.map fun slot =>
      slot.map fun (occupant, record) =>
        if occupant = widget then (occupant, change record) else (occupant, record) }

/-- Adds an entry to the journal. -/
def log (forest : Forest) (event : Event) : Forest :=
  { forest with history := forest.history ++ [event] }

end Forest

end WidgetTree
