import WidgetTree.Element.Basic

namespace WidgetTree

open Text

/-- A named way to make an element of a node. -/
structure Constructor where
  name : String
  /-- The role of the elements it makes. -/
  role : Role

namespace Constructor

def generic : Constructor := ⟨"generic", .generic⟩
def window : Constructor := ⟨"window", .window⟩
def button : Constructor := ⟨"button", .button⟩
def checkbox : Constructor := ⟨"checkbox", .checkbox none⟩
def register : Constructor := ⟨"register", .register []⟩

/-- Collections whose rows are resolved as given. -/
def rows (name : String) (resolver : RowResolver) : Constructor := ⟨name, .collection { resolver }⟩

def collection : Constructor := rows "collection" .standard

/-- The constructors of the kinds of element that there are. -/
def builtIn : List Constructor := [generic, window, collection, button, checkbox, register]

/-- The built-in constructor of a name. -/
def ofName? (name : String) : Option Constructor := builtIn.find? (·.name = name)

/-- The element of a node. -/
def construct (constructor : Constructor) (spec : NodeSpec) : Element :=
  .ofSpec constructor.role spec

/-- How listings of tables show the constructor. -/
def label (constructor : Constructor) : String :=
  "ElementConstructor(" ++ quote constructor.name ++ ")"

end Constructor

/-- The constructors of kinds, and of the kinds that are not listed. -/
structure KindTable where
  entries : Table Kind Constructor := []
  fallback : Option Constructor := none

namespace KindTable

/-- The table in which every kind must be listed, and none is yet. -/
def strict : KindTable := {}

/-- The table that gives every kind the same constructor. -/
def ofFallback (fallback : Constructor) : KindTable := { fallback := some fallback }

/-- Gives a kind its constructor. -/
def register (table : KindTable) (kind : Kind) (constructor : Constructor) : KindTable :=
  { table with entries := table.entries.insert kind constructor }

/-- The constructors of the built-in kinds, and generic elements for all others. -/
def standard : KindTable where
  entries :=
    [ (.root, .window), (.listBox, .collection), (.listBoxTables, .collection),
      (.listBoxCheckboxes, .collection), (.button, .button), (.checkBox, .checkbox),
      (.register, .register) ]
  fallback := some .generic

/-- Sets or removes the fallback. -/
def setFallback (table : KindTable) (fallback : Option Constructor) : KindTable :=
  { table with fallback }

/-- The constructor for a declared kind, or for a node that declares none. -/
def lookup (table : KindTable) (kind : Option Kind) : Except BuildError Constructor :=
  match (kind.bind table.entries.get?).or table.fallback with
  | some constructor => .ok constructor
  | none => .error (.resolution .element ((kind.map Kind.tag).getD "<none>"))

/-- The table as a listing. -/
def listing (table : KindTable) : String :=
  let entries := table.entries.map fun (kind, constructor) =>
    kind.label ++ ": " ++ constructor.label
  let fallback := match table.fallback with
    | none => "None"
    | some constructor => "Some(" ++ constructor.label ++ ")"
  "KindTable \x7b entries: \x7b" ++ ", ".intercalate entries ++ "\x7d, fallback: " ++ fallback ++
    " \x7d"

end KindTable

/-- What turns nodes into elements. It picks the constructor of a node's element by the node's kind.
A kind that its table does not list goes to the fallback, if there is one. -/
structure Resolver where
  table : KindTable
  /-- What is changed about a node before its element is made. -/
  finalize : NodeSpec → NodeSpec := id

namespace Resolver

/-- The built-in kinds, with generic elements for all others. -/
def standard : Resolver := { table := .standard }

/-- The constructor of a node's element. -/
def resolve (resolver : Resolver) (spec : NodeSpec) : Except BuildError Constructor :=
  resolver.table.lookup (Kind.of? spec)

/-- The element of a node. -/
def element (resolver : Resolver) (spec : NodeSpec) : Except BuildError Element := do
  let constructor ← resolver.resolve spec
  return constructor.construct (resolver.finalize spec)

end Resolver

end WidgetTree
