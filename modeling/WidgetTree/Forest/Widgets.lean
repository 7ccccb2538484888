import WidgetTree.Forest.Basic
import WidgetTree.Toolkit.Catalogue
import WidgetTree.Toolkit.Interface

namespace WidgetTree.Forest

/-- The class of a live widget. -/
def classOf (forest : Forest) (widget : WidgetId) : Except ToolkitError WidgetClass :=
  match forest.record? widget with
  | none => .error .deadWidget
  | some record =>
    match WidgetClass.ofName? record.widgetType with
    | none => .error (.unknownWidgetType record.widgetType)
    | some cls => .ok cls

/-- Puts a widget into the slot that was freed last, or into a new one. -/
def occupy (forest : Forest) (widget : WidgetId) (record : Record) : Forest :=
  match forest.free with
  | slot :: free => { forest with slots := forest.slots.set slot (some (widget, record)), free }
  | [] => { forest with slots := forest.slots ++ [some (widget, record)] }

/-- Lists a widget as the last one inside its parent, or as the last root. -/
def adopt (forest : Forest) (parent : Option WidgetId) (widget : WidgetId) : Forest :=
  match parent with
  | none => { forest with roots := forest.roots ++ [widget] }
  | some parent =>
    { forest with
      childLists := forest.childLists.insert parent (forest.children parent ++ [widget]) }

/-- Constructs a widget. Its type must be in the catalogue and its parent, if any, live. -/
def construct (widgetType : String) (parent : Option WidgetId) (args : Fields Value)
    (forest : Forest) : Outcome Forest WidgetId :=
  if (WidgetClass.ofName? widgetType).isNone then (.error (.unknownWidgetType widgetType), forest)
  else if parent.any (!forest.contains ·) then (.error .deadWidget, forest)
  else
    let widget : WidgetId := ⟨forest.constructed + 1⟩
    let forest := { forest with constructed := forest.constructed + 1 }
    let forest := forest.occupy widget { widgetType, parent, constructorArgs := args }
    let forest := { forest with childLists := forest.childLists.insert widget [] }
    (.ok widget, (forest.adopt parent widget).log (.constructed widget widgetType))

/-- Attaches a widget by a strategy that its class supports. -/
def attach (widget : WidgetId) (strategy : String) (args : Fields Value) (forest : Forest) :
    Outcome Forest Unit :=
  match forest.classOf widget with
  | .error error => (.error error, forest)
  | .ok cls =>
    if cls.supports strategy then
      let forest := forest.modify widget ({ · with attachment := some { strategy, args } })
      (.ok (), forest.log (.attached widget strategy))
    else (.error (.unsupportedAttach cls.name strategy), forest)

/-- Assigns an attribute of a live widget. -/
def setAttribute (widget : WidgetId) (name : String) (value : Value) (forest : Forest) :
    Outcome Forest Unit :=
  if forest.contains widget then
    let assign (record : Record) : Record :=
      { record with attributes := record.attributes.insert name value }
    (.ok (), (forest.modify widget assign).log (.attributeSet widget name))
  else (.error .deadWidget, forest)

/-- Takes a widget out of the list of its parent, or out of the roots. -/
def disown (forest : Forest) (parent : Option WidgetId) (widget : WidgetId) : Forest :=
  match parent with
  | none => { forest with roots := forest.roots.filter (· ≠ widget) }
  | some parent =>
    match forest.childLists.get? parent with
    | none => forest
    | some siblings =>
      { forest with childLists := forest.childLists.insert parent (siblings.filter (· ≠ widget)) }

/-- Frees the slot of a widget. -/
def vacate (forest : Forest) (widget : WidgetId) : Forest :=
  let holds (slot : Option (WidgetId × Record)) : Bool := slot.any fun entry => entry.1 = widget
  match forest.slots.findIdx? holds with
  | none => forest
  | some slot => { forest with slots := forest.slots.set slot none, free := slot :: forest.free }

/-- Taking out a key that has a value makes a table shorter. -/
private theorem length_erase_lt {table : Table WidgetId (List WidgetId)} {widget : WidgetId}
    {inside : List WidgetId} (h : table.get? widget = some inside) :
    (table.erase widget).length < table.length := by
  induction table with
  | nil => cases h
  | cons entry rest ih =>
    obtain ⟨known, list⟩ := entry
    by_cases hknown : known = widget
    · have hle := List.length_filter_le
        (fun entry : WidgetId × List WidgetId => decide (entry.1 ≠ widget)) rest
      simp only [ne_eq, decide_not] at hle
      simp [Table.erase, hknown]
      omega
    · simp only [Table.get?, hknown, if_false] at h
      have := ih h
      simp only [Table.erase] at this
      simpa [Table.erase, hknown] using this

/-- Frees the slots of widgets that wait in line, each of which sends the widgets inside it to the
end of the line: a widget goes before those inside it, level by level. -/
def release (forest : Forest) : List WidgetId → Forest
  | [] => forest
  | widget :: waiting =>
    match _h : forest.childLists.get? widget with
    | some inside =>
      release ({ forest with childLists := forest.childLists.erase widget }.vacate widget)
        (waiting ++ inside)
    | none => release (forest.vacate widget) waiting
termination_by waiting => (forest.childLists.length, waiting.length)
decreasing_by
  · apply Prod.Lex.left
    unfold vacate
    dsimp only
    split <;> exact length_erase_lt _h
  · have : (forest.vacate widget).childLists = forest.childLists := by
      unfold vacate
      dsimp only
      split <;> rfl
    rw [this]
    apply Prod.Lex.right
    simp

/-- Destroys a live widget with all widgets inside it. -/
def destroy (widget : WidgetId) (forest : Forest) : Outcome Forest Unit :=
  match forest.record? widget with
  | none => (.error .deadWidget, forest)
  | some record =>
    (.ok (), ((forest.disown record.parent widget).release [widget]).log (.destroyed widget))

end WidgetTree.Forest
