import WidgetTree.Forest.Basic

namespace WidgetTree.Forest

/-- The live widgets whose record satisfies a condition, in the order of their slots. -/
def search (forest : Forest) (condition : Record → Bool) : List WidgetId :=
  (forest.widgets.filter fun entry => condition entry.2).map Prod.fst

/-- The live widgets of a type. -/
def byType (forest : Forest) (widgetType : String) : List WidgetId :=
  forest.search (·.widgetType == widgetType)

/-- The live widgets with an option of this value. -/
def byOption (forest : Forest) (name : String) (value : Value) : List WidgetId :=
  forest.search fun record => (record.option? name).any (·.same value)

/-- A live widget, and the widgets inside it down to some depth, each before those inside it. -/
def walkDown (forest : Forest) : Nat → WidgetId → List WidgetId
  | 0, _ => []
  | depth + 1, widget =>
    if forest.contains widget then
      widget :: (forest.children widget).flatMap (forest.walkDown depth)
    else []

/-- A live widget and all widgets inside it, in pre-order. No chain of widgets inside each other is
longer than the number of widgets ever constructed, which bounds the walk. -/
def walk (forest : Forest) (widget : WidgetId) : List WidgetId :=
  forest.walkDown forest.constructed widget

/-- The parent, its parent and so on, as far as some height. -/
def climb (forest : Forest) : Nat → WidgetId → List WidgetId
  | 0, _ => []
  | height + 1, widget =>
    match forest.parent? widget with
    | none => []
    | some parent => parent :: forest.climb height parent

/-- The widgets around a widget, the nearest first. -/
def ancestors (forest : Forest) (widget : WidgetId) : List WidgetId :=
  forest.climb forest.constructed widget

end WidgetTree.Forest
