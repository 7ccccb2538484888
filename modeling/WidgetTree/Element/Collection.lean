import WidgetTree.Element.Row

namespace WidgetTree

/-- What a collection has besides its core. A collection is built like any other widget; rows are
added to it afterwards, each inside the collection's widget, and taken away all at once. -/
structure Collection where
  rows : List Row := []
  resolver : RowResolver := RowResolver.standard
  /-- The configuration that the collection was built with. -/
  config : Config := {}

namespace Collection

/-- The kind by which rows are resolved; a list box if the node declares none. -/
def kind (core : Core) : Kind := (Kind.of? core.spec).getD .listBox

/-- The id of a row with this label, as far as it does not depend on the other rows. -/
def baseId (core : Core) (label : String) : String := "generic:" ++ core.id ++ "." ++ label

/-- The base with the first number from `n` on that makes it an id that is not taken. At most
`choices` numbers are tried. -/
def numbered (taken : List String) (base : String) : Nat → Nat → String
  | 0, n => s!"{base}#{n}"
  | choices + 1, n =>
    let candidate := s!"{base}#{n}"
    if candidate ∈ taken then numbered taken base choices (n + 1) else candidate

/-- The id of a new row with this label: the base if no row has it, or else with the least number
from 2 on that no row has. One of as many numbers as there are rows and one more is free. -/
def rowId (core : Core) (rows : List Row) (label : String) : String :=
  let taken := rows.map Row.id
  let base := baseId core label
  if base ∈ taken then numbered taken base taken.length 2 else base

variable {σ : Type} [Toolkit σ]

/-- Builds the widgets of a row inside a widget. If the content cannot be built, the container is
released again. -/
def buildRow (strategy : RowStrategy) (config : Config) (parent : WidgetId) (spec : RowSpec) :
    Act σ Row := do
  let (_, container) ←
    Act.onOwn (.ofSpec (strategy.container spec)) (Core.build config (some parent))
  let holder ← Act.ofExcept container.requireWidget
  let made ← Act.ofScript (strategy.content spec)
  match ← Act.attempt (Act.onOwn (.ofSpec made.node) (Core.build config (some holder))) with
  | .ok (_, content) => return { container, content, text := spec.text, state := made.state }
  | .error error =>
    let _ ← Act.attempt (Act.onOwn container Core.destroy)
    throw error

/-- Adds a row. It joins the rows once its widgets are built. -/
def addRowWith (core : Core) (spec : RowSpec) : Act (Work Collection σ) Row := do
  let collection ← Act.subject
  let strategy ← Act.ofExcept (collection.resolver.resolve (kind core))
  let parent ← Act.ofExcept core.requireWidget
  let row ← Act.inToolkit (buildRow strategy collection.config parent spec)
  Act.setSubject fun collection => { collection with rows := collection.rows ++ [row] }
  return row

/-- Adds a row that shows a label, under an id of its own. -/
def addRow (core : Core) (label : String) : Act (Work Collection σ) Row := do
  let collection ← Act.subject
  addRowWith core { id := rowId core collection.rows label, text := label }

/-- Releases rows, all of them even if some fail; the first failure counts. -/
def releaseRows : List Row → Act σ Unit
  | [] => pure ()
  | row :: rest => do
    let first ← Act.attempt row.destroy
    let others ← Act.attempt (releaseRows rest)
    Act.ofExcept first
    Act.ofExcept others

/-- Takes all rows away. The list is emptied before the first widget goes. -/
def clear : Act (Work Collection σ) Unit := do
  let collection ← Act.subject
  Act.setSubject ({ · with rows := [] })
  Act.inToolkit (releaseRows collection.rows)

/-- Which of several rows are checked. -/
def checkedRows : List Row → Act σ (List Bool)
  | [] => return []
  | row :: rest => do
    let checked ← row.isChecked
    let others ← checkedRows rest
    return checked.getD false :: others

/-- Which rows are checked, if rows have a checked state. -/
def rowStates (core : Core) (collection : Collection) : Act σ (List Bool) := do
  let strategy ← Act.ofExcept (collection.resolver.resolve (kind core))
  if strategy.checkable then checkedRows collection.rows
  else
    throw (.configuration core.id (Text.backquote strategy.name ++ " rows have no checked state"))

/-- Whether some row is checked. -/
def anyChecked (core : Core) (collection : Collection) : Act σ Bool :=
  return (← rowStates core collection).any id

/-- Whether every row is checked. -/
def allChecked (core : Core) (collection : Collection) : Act σ Bool :=
  return (← rowStates core collection).all id

end Collection

end WidgetTree
