import WidgetTree.Element.Basic

namespace WidgetTree

open Text

/-- A reference to an element: the number of elements made before it. Elements are shared: whoever
knows an element refers to it, and sees what others do to it. -/
structure ElementRef where
  index : Nat
deriving DecidableEq

/-- All elements, in the order in which they were made. -/
abbrev Elements := List Element

namespace Elements

/-- The element that is referred to. -/
def get? (elements : Elements) (ref : ElementRef) : Option Element := elements[ref.index]?

/-- Puts an element in the place of the one that is referred to. -/
def put (elements : Elements) (ref : ElementRef) (element : Element) : Elements :=
  elements.set ref.index element

/-- The reference to the next element that is made. -/
def next (elements : Elements) : ElementRef := ⟨elements.length⟩

/-- The id of the element that is referred to. -/
def idOf (elements : Elements) (ref : ElementRef) : String :=
  ((elements.get? ref).map Element.id).getD ""

end Elements

/-- Elements under the names that they are bound to, in the order in which the names were first
bound. -/
abbrev Registry := Fields ElementRef

namespace Registry

/-- Binds an element under a name. If the name is taken, the policy says what happens. -/
def bind (registry : Registry) (elements : Elements) (name : String) (ref : ElementRef)
    (policy : BindingPolicy) : Except BuildError Registry :=
  match registry.get? name, policy with
  | some taken, .reject =>
    .error (.configuration (elements.idOf ref) ("binding " ++ backquote name ++
      " is already taken by node " ++ backquote (elements.idOf taken)))
  | _, _ => .ok (registry.insert name ref)

/-- The widget of the element bound under a name, if it has one. -/
def widget? (registry : Registry) (elements : Elements) (name : String) : Option WidgetId :=
  ((registry.get? name).bind elements.get?).bind Element.widget

/-- The registry as a listing of names with the ids of the elements bound under them. -/
def listing (registry : Registry) (elements : Elements) : String :=
  let entries := registry.map fun (name, ref) => quote name ++ ": " ++ quote (elements.idOf ref)
  "\x7b" ++ ", ".intercalate entries ++ "\x7d"

end Registry

end WidgetTree
