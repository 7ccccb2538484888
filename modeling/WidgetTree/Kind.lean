import WidgetTree.Node.Tree

namespace WidgetTree

open Text

/-- A kind of element. A tag that names no built-in kind is a kind of its own. -/
inductive Kind
  | root
  | listBox
  | listBoxTables
  | listBoxCheckboxes
  | button
  | checkBox
  | register
  | custom (tag : String)
deriving DecidableEq

namespace Kind

/-- The kind that a tag names. -/
def ofTag (tag : String) : Kind :=
  match tag with
  | "root" => root
  | "ListBox" => listBox
  | "ListBoxTables" => listBoxTables
  | "ListBoxCheckboxes" => listBoxCheckboxes
  | "Button" => button
  | "CheckBox" => checkBox
  | "RegisterElement" => register
  | other => custom other

/-- The tag of a kind in descriptions. -/
def tag : Kind → String
  | root => "root"
  | listBox => "ListBox"
  | listBoxTables => "ListBoxTables"
  | listBoxCheckboxes => "ListBoxCheckboxes"
  | button => "Button"
  | checkBox => "CheckBox"
  | register => "RegisterElement"
  | custom tag => tag

/-- The kind that a node declares. -/
def of? (spec : NodeSpec) : Option Kind := spec.kind.map ofTag

/-- Whether elements of the kind hold rows. -/
def isCollection : Kind → Bool
  | listBox | listBoxTables | listBoxCheckboxes => true
  | _ => false

def isCustom : Kind → Bool
  | custom _ => true
  | _ => false

/-- How listings of tables show the kind. -/
def label : Kind → String
  | root => "Root"
  | listBox => "ListBox"
  | listBoxTables => "ListBoxTables"
  | listBoxCheckboxes => "ListBoxCheckboxes"
  | button => "Button"
  | checkBox => "CheckBox"
  | register => "Register"
  | custom tag => "Custom(" ++ quote tag ++ ")"

end Kind

end WidgetTree
