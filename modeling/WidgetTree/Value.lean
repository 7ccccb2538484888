import WidgetTree.Table
import WidgetTree.Text.Decimal
import WidgetTree.Text.Quoted

namespace WidgetTree

open Text

/-- The handle of a widget: the number of its construction. -/
structure WidgetId where
  number : Nat
deriving DecidableEq

/-- The handle of a state variable: the number of its creation. -/
structure VariableId where
  number : Nat
deriving DecidableEq

/-- The handle of a command: the number of its registration. -/
structure CommandId where
  number : Nat
deriving DecidableEq

/-- A dynamically shaped value. It is data, or a handle to something that a toolkit owns. A handle
is the number of the creation that issued it, and the number 0 is the handle that nothing was ever
issued under. -/
inductive Value
  | null
  | bool (flag : Bool)
  | int (number : Int)
  | float (number : Float)
  | string (text : String)
  | list (items : List Value)
  | mapping (entries : List (String × Value))
  | widget (handle : WidgetId)
  | stateVariable (handle : VariableId)
  | command (handle : CommandId)

instance : Inhabited Value := ⟨.null⟩

namespace Value

/-- The name of a value's shape, as messages give it. -/
def shape : Value → String
  | null => "null"
  | bool _ => "bool"
  | int _ => "int"
  | float _ => "float"
  | string _ => "string"
  | list _ => "list"
  | mapping _ => "mapping"
  | widget _ => "widget"
  | stateVariable _ => "variable"
  | command _ => "command"

def isNull : Value → Bool
  | null => true
  | _ => false

def string? : Value → Option String
  | string text => some text
  | _ => none

/-- An integer; a flag counts as 0 or 1. -/
def int? : Value → Option Int
  | int number => some number
  | bool flag => some (if flag then 1 else 0)
  | _ => none

def list? : Value → Option (List Value)
  | list items => some items
  | _ => none

def mapping? : Value → Option (Fields Value)
  | mapping entries => some entries
  | _ => none

def widget? : Value → Option WidgetId
  | widget handle => some handle
  | _ => none

def stateVariable? : Value → Option VariableId
  | stateVariable handle => some handle
  | _ => none

def command? : Value → Option CommandId
  | command handle => some handle
  | _ => none

/-- What a state variable that holds the value counts as: null, zero, the texts `""` and `"0"` and
empty containers are false, all else is true. -/
def truthy : Value → Bool
  | null => false
  | bool flag => flag
  | int number => number != 0
  | float number => number != 0.0
  | string text => text != "" && text != "0"
  | list items => !items.isEmpty
  | mapping entries => !entries.isEmpty
  | widget _ | stateVariable _ | command _ => true

/-- Numbers in values are written positionally at every size, and whole ones without a point.
Between two decimals the greater one wins. -/
def numberLayout : Decimal.Layout where
  tie := .above
  positional := none
  wholeMark := []

mutual

/-- The text of a value. Texts are quoted, names of entries are not. -/
def display : Value → String
  | null => "null"
  | bool flag => if flag then "true" else "false"
  | int number => toString number
  | float number => numberLayout.double number
  | string text => quote text
  | list items => "[" ++ ", ".intercalate (displayItems items) ++ "]"
  | mapping entries => "\x7b" ++ ", ".intercalate (displayEntries ": " entries) ++ "\x7d"
  | widget _ => "<widget>"
  | stateVariable _ => "<variable>"
  | command _ => "<command>"

/-- The texts of several values. -/
def displayItems : List Value → List String
  | [] => []
  | item :: rest => display item :: displayItems rest

/-- The texts of several entries, each name joined to its value by `mark`. -/
def displayEntries (mark : String) : List (String × Value) → List String
  | [] => []
  | (name, item) :: rest => (name ++ mark ++ display item) :: displayEntries mark rest

end

mutual

/-- Equality of values. Numbers of different kinds differ, a value that is no number differs from
itself, and the order of a mapping's entries does not count. -/
def same : Value → Value → Bool
  | null, null => true
  | bool a, bool b => a == b
  | int a, int b => a == b
  | float a, float b => a == b
  | string a, string b => a == b
  | list a, list b => sameItems a b
  | mapping a, mapping b => a.length == b.length && sameEntries a b
  | widget a, widget b => a == b
  | stateVariable a, stateVariable b => a == b
  | command a, command b => a == b
  | _, _ => false

/-- Equality item by item. -/
def sameItems : List Value → List Value → Bool
  | [], [] => true
  | a :: restA, b :: restB => same a b && sameItems restA restB
  | _, _ => false

/-- Every entry of the first mapping has an equal value under its name in the second. -/
def sameEntries : List (String × Value) → Fields Value → Bool
  | [], _ => true
  | (name, a) :: rest, others =>
    (match others.get? name with
      | some b => same a b
      | none => false) && sameEntries rest others

end

end Value

end WidgetTree
