import WidgetTree.Forest.Query

namespace WidgetTree

open Text

/-- What a snapshot says of one widget: its type, its options, how it is attached and its pages. -/
def Record.describe (record : Record) : String :=
  let options := record.optionNames.map fun name =>
    " " ++ name ++ "=" ++ ((record.option? name).getD .null).display
  let attachment := match record.attachment with
    | none => ""
    | some attachment =>
      let args := attachment.args.map fun (name, value) => " " ++ name ++ "=" ++ value.display
      " [" ++ attachment.strategy ++ String.join args ++ "]"
  let tabs := match record.tabs with
    | [] => ""
    | tabs => " tabs=[" ++ ", ".intercalate (tabs.map fun tab => quote tab.text) ++ "]"
  record.widgetType ++ String.join options ++ attachment ++ tabs

namespace Forest

/-- The lines of a live widget and of the widgets inside it down to some depth. -/
def lines (forest : Forest) : Nat → Nat → WidgetId → List String
  | 0, _, _ => []
  | depth + 1, level, widget =>
    match forest.record? widget with
    | none => []
    | some record =>
      (String.ofList (List.replicate (2 * level) ' ') ++ record.describe) ::
        (forest.children widget).flatMap (forest.lines depth (level + 1))

/-- The text of a widget and all widgets inside it; empty if it is not live. -/
def subtreeText (forest : Forest) (widget : WidgetId) : String :=
  "\n".intercalate (forest.lines forest.constructed 0 widget)

/-- The text of the whole forest. -/
def text (forest : Forest) : String :=
  "\n".intercalate (forest.roots.map forest.subtreeText)

/-- The forest in figures. -/
def summary (forest : Forest) : String :=
  s!"HeadlessToolkit \x7b widgets: {forest.widgets.length}, " ++
    s!"variables: {forest.heldValues.length}, commands: {forest.commands} \x7d"

end Forest

end WidgetTree
