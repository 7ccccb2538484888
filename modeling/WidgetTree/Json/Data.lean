import WidgetTree.Json.Text

namespace WidgetTree.Json

namespace Number

/-- The number as an integer of 64 bits with a sign, if it is one. -/
def int? : Number → Option Int
  | natural number => if number ≤ greatestInt then some number else none
  | negative number => some number
  | real _ => none

/-- The number as a double, which every number has. -/
def double? : Number → Option Float
  | natural number => some (Float.ofNat number)
  | negative number => some (Float.ofInt number)
  | real number => some number

end Number

/-- Data without handles. A document that was read to its end: data has no fault, and of the members
of an object that are named alike it keeps one, at the place of the first, with what stands in the
last. -/
inductive Data
  | null
  | bool (flag : Bool)
  | number (number : Number)
  | string (text : String)
  | list (items : List Data)
  | object (members : List (String × Data))

instance : Inhabited Data := ⟨.null⟩

namespace Document

mutual

/-- The data that a document holds, or the first fault in it. -/
def data? : Document → Except Fault Data
  | null => .ok .null
  | bool flag => .ok (.bool flag)
  | number n => .ok (.number n)
  | string text => .ok (.string text)
  | list items fault => do
    let items ← dataItems? items
    closed fault
    return .list items
  | object members fault => do
    let members ← dataMembers? members
    closed fault
    return .object (Table.ofPairs members)
  | broken fault => .error fault

/-- The data of several documents. -/
def dataItems? : List Document → Except Fault (List Data)
  | [] => .ok []
  | item :: rest => do
    let item ← data? item
    let items ← dataItems? rest
    return item :: items

/-- The data of several members. -/
def dataMembers? : List (Except Fault String × Document) → Except Fault (List (String × Data))
  | [] => .ok []
  | (name, item) :: rest => do
    let name ← name
    let item ← data? item
    let members ← dataMembers? rest
    return (name, item) :: members

end

end Document

namespace Data

/-- The data that a text in JSON spells. -/
def ofText? (text : String) : Except Problem Data :=
  decodeText (fun document => liftFault document.data?) text

/-- The value of a number. One without a double would be no number. -/
def numberValue (number : Number) : Value :=
  match number.int? with
  | some integer => .int integer
  | none => .float (number.double?.getD (0.0 / 0.0))

mutual

/-- The value that data stands for. -/
def value : Data → Value
  | null => .null
  | bool flag => .bool flag
  | number n => numberValue n
  | string text => .string text
  | list items => .list (values items)
  | object members => .mapping (Table.ofPairs (entries members))

/-- The values of several data. -/
def values : List Data → List Value
  | [] => []
  | item :: rest => value item :: values rest

/-- The entries of several members. -/
def entries : List (String × Data) → List (String × Value)
  | [] => []
  | (name, item) :: rest => (name, value item) :: entries rest

end

end Data

end WidgetTree.Json
