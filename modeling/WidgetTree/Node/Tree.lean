import WidgetTree.Node.Sequence

namespace WidgetTree

/-- The settings of one node. -/
structure NodeSpec where
  /-- The node's name, for messages and tabs. -/
  id : String := ""
  /-- The tag of the element kind that builds the node. -/
  kind : Option String := none
  /-- The type of widget to construct. -/
  widgetType : Option String := none
  /-- How the widget attaches to its parent's layout. -/
  attachStrategy : Option String := none
  /-- How direct children attach that do not say so. -/
  childrenAttachStrategy : Option String := none
  constructorArgs : Fields Value := []
  /-- Attributes assigned once the widget is attached. -/
  attributes : Fields Value := []
  attachArgs : Fields Value := []
  /-- Calls made after the attributes are assigned. -/
  sequence : Option ConfigSequence := none
  /-- Calls made once all children are built. -/
  hook : List Call := []
  /-- The name to bind the built element under. -/
  binding : Option String := none

instance : Inhabited NodeSpec := ⟨{}⟩

namespace NodeSpec

/-- A node that nothing is known of but its id. -/
def ofId (id : String) : NodeSpec := { id }

def withConstructorArg (spec : NodeSpec) (name : String) (value : Value) : NodeSpec :=
  { spec with constructorArgs := spec.constructorArgs.insert name value }

def withAttribute (spec : NodeSpec) (name : String) (value : Value) : NodeSpec :=
  { spec with attributes := spec.attributes.insert name value }

def withAttachArg (spec : NodeSpec) (name : String) (value : Value) : NodeSpec :=
  { spec with attachArgs := spec.attachArgs.insert name value }

def withSequence (spec : NodeSpec) (item : ConfigSequence) : NodeSpec :=
  { spec with sequence := some (ConfigSequence.append spec.sequence item) }

def withHookCall (spec : NodeSpec) (method : String) (value : Value) : NodeSpec :=
  { spec with hook := spec.hook ++ [Call.shaped method value] }

/-- The node attaches by `strategy` unless it says otherwise. -/
def inheriting (spec : NodeSpec) (strategy : Option String) : NodeSpec :=
  { spec with attachStrategy := spec.attachStrategy.or strategy }

/-- The calls of the configuration sequence, in order. -/
def sequenceCalls (spec : NodeSpec) : List Call :=
  match spec.sequence with
  | none => []
  | some sequence => sequence.calls

end NodeSpec

/-- A node with the nodes inside it, in order. A node may say how its direct children attach that do
not say so themselves. This is settled when the tree is put together, so that a child's own setting
always tells how it attaches. -/
inductive NodeTree
  | node (spec : NodeSpec) (children : List NodeTree)

instance : Inhabited NodeTree := ⟨.node {} []⟩

namespace NodeTree

/-- The settings of the top node. -/
def spec : NodeTree → NodeSpec
  | node spec _ => spec

/-- The trees inside the top node. -/
def children : NodeTree → List NodeTree
  | node _ children => children

/-- A tree of one node that nothing is known of but its id. -/
def ofId (id : String) : NodeTree := node (.ofId id) []

/-- The tree with the settings of its top node changed. -/
def mapSpec (tree : NodeTree) (change : NodeSpec → NodeSpec) : NodeTree :=
  node (change tree.spec) tree.children

/-- The tree with its top node attaching by `strategy` unless it says otherwise. -/
def inheriting (tree : NodeTree) (strategy : Option String) : NodeTree :=
  tree.mapSpec (·.inheriting strategy)

/-- A node whose direct children attach as it says, where they do not say so themselves. -/
def settled (spec : NodeSpec) (children : List NodeTree) : NodeTree :=
  node spec (children.map (·.inheriting spec.childrenAttachStrategy))

/-- Says how direct children attach, those that are there already included. -/
def withChildrenAttachStrategy (tree : NodeTree) (strategy : String) : NodeTree :=
  settled { tree.spec with childrenAttachStrategy := some strategy } tree.children

/-- Adds a child at the end, which attaches as the node says unless it says so itself. -/
def withChild (tree child : NodeTree) : NodeTree :=
  node tree.spec (tree.children ++ [child.inheriting tree.spec.childrenAttachStrategy])

/-- The top node alone. -/
def withoutChildren (tree : NodeTree) : NodeTree := node tree.spec []

mutual

/-- The number of nodes. -/
def count : NodeTree → Nat
  | node _ children => countAll children + 1

/-- The number of nodes in several trees. -/
def countAll : List NodeTree → Nat
  | [] => 0
  | tree :: rest => count tree + countAll rest

end

mutual

/-- The subtree of the first node with this id, in pre-order. -/
def find? (id : String) : NodeTree → Option NodeTree
  | node spec children => if spec.id = id then some (node spec children) else findIn? id children

/-- The subtree of the first node with this id in several trees. -/
def findIn? (id : String) : List NodeTree → Option NodeTree
  | [] => none
  | tree :: rest => (find? id tree).or (findIn? id rest)

end

end NodeTree

/-- One step of putting a node together. -/
inductive Setting
  | kind (tag : String)
  | widgetType (name : String)
  | attachStrategy (strategy : String)
  | childrenAttachStrategy (strategy : String)
  | constructorArg (name : String) (value : Value)
  | attribute (name : String) (value : Value)
  | attachArg (name : String) (value : Value)
  | sequence (item : ConfigSequence)
  | hookCall (method : String) (value : Value)
  | binding (name : String)
  | child (tree : NodeTree)

namespace NodeTree

/-- Takes one step of putting a node together. -/
def apply (tree : NodeTree) : Setting → NodeTree
  | .kind tag => tree.mapSpec ({ · with kind := some tag })
  | .widgetType name => tree.mapSpec ({ · with widgetType := some name })
  | .attachStrategy strategy => tree.mapSpec ({ · with attachStrategy := some strategy })
  | .childrenAttachStrategy strategy => tree.withChildrenAttachStrategy strategy
  | .constructorArg name value => tree.mapSpec (·.withConstructorArg name value)
  | .attribute name value => tree.mapSpec (·.withAttribute name value)
  | .attachArg name value => tree.mapSpec (·.withAttachArg name value)
  | .sequence item => tree.mapSpec (·.withSequence item)
  | .hookCall method value => tree.mapSpec (·.withHookCall method value)
  | .binding name => tree.mapSpec ({ · with binding := some name })
  | .child child => tree.withChild child

/-- Puts a node together from its id, step by step. -/
def ofSettings (id : String) (settings : List Setting) : NodeTree :=
  settings.foldl apply (ofId id)

end NodeTree

end WidgetTree
