import WidgetTree.Value

namespace WidgetTree.Json

/-- Why a text stops making sense. -/
inductive Fault
  /-- A character stands where none like it may. -/
  | malformed
  /-- The text ends early. -/
  | truncated
deriving DecidableEq

/-- A number, by how it is written. -/
inductive Number
  /-- Digits alone, of a number below `2 ^ 64`. -/
  | natural (number : Nat)
  /-- A minus sign and digits, of a negative number not below `-2 ^ 63`. -/
  | negative (number : Int)
  /-- Any other number, as the double it is read as. -/
  | real (number : Float)

/-- A document. Its text may be broken off in it. The place where a text stops making sense is part
of the document, so that a decoder that walks a document in the order of its text meets a fault
exactly when a one-pass reader of the text would. -/
inductive Document
  | null
  | bool (flag : Bool)
  | number (number : Number)
  | string (text : String)
  /-- The items of a list. A fault stands for what is wrong where a comma or the end of the list
  was due. -/
  | list (items : List Document) (fault : Option Fault)
  /-- The members of an object, each a name and a value. Where a name was due and something else
  stands, the member is that fault. A fault of the object stands for what is wrong where a comma or
  the end of the object was due. -/
  | object (members : List (Except Fault String × Document)) (fault : Option Fault)
  /-- What is wrong where a value was due. -/
  | broken (fault : Fault)

instance : Inhabited Document := ⟨.null⟩

/-- The greatest integer that a value holds as one. -/
def greatestInt : Nat := (1 <<< 63) - 1

namespace Number

/-- An integer stays one when it fits in 64 bits with a sign; every other number is a double. -/
def value : Number → Value
  | natural number => if number ≤ greatestInt then .int number else .float (Float.ofNat number)
  | negative number => .int number
  | real number => .float number

end Number

/-- Succeeds unless there is a fault. -/
def closed : Option Fault → Except Fault Unit
  | none => .ok ()
  | some fault => .error fault

namespace Document

mutual

/-- The value that a document holds, or the first fault in it. -/
def value? : Document → Except Fault Value
  | null => .ok .null
  | bool flag => .ok (.bool flag)
  | number n => .ok n.value
  | string text => .ok (.string text)
  | list items fault => do
    let values ← values? items
    closed fault
    return .list values
  | object members fault => do
    let entries ← entries? members
    closed fault
    return .mapping (Table.ofPairs entries)
  | broken fault => .error fault

/-- The values of several documents. -/
def values? : List Document → Except Fault (List Value)
  | [] => .ok []
  | item :: rest => do
    let value ← value? item
    let values ← values? rest
    return value :: values

/-- The entries of several members. -/
def entries? : List (Except Fault String × Document) → Except Fault (List (String × Value))
  | [] => .ok []
  | (name, item) :: rest => do
    let name ← name
    let value ← value? item
    let entries ← entries? rest
    return (name, value) :: entries

end

end Document

end WidgetTree.Json
