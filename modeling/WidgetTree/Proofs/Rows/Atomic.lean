import WidgetTree.Proofs.Build.Reach
import WidgetTree.Proofs.Rows.Line

namespace WidgetTree

open Forest

/-- What adding the row may reach beside the widgets: the state variables that the node of its
content tells its widget and operates, and the commands that it tells its widget and fires. -/
def Collection.reach (core : Core) (collection : Collection) (spec : RowSpec) : Reach where
  writes handle := ∃ strategy made, collection.resolver.resolve (Collection.kind core) =
    .ok strategy ∧ (strategy.content spec).Yields made ∧ made.node.Operates handle
  fires command := ∃ strategy made, collection.resolver.resolve (Collection.kind core) =
    .ok strategy ∧ (strategy.content spec).Yields made ∧ made.node.Fires command

namespace Core

variable {fresh : Nat} {reach : Reach} {base : Forest} {spec : NodeSpec}

end Core

namespace Collection

variable {reach : Reach} {forest : Forest}

end Collection

namespace Element

end Element

end WidgetTree
