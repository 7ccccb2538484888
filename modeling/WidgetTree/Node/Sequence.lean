import WidgetTree.Call
import WidgetTree.Json.Problem

namespace WidgetTree

/-- What is wrong with a node description. -/
inductive SchemaError
  /-- The description does not have the form of a node. -/
  | malformed (problem : Json.Problem)
  /-- The description says something that it may not. -/
  | invalid (message : String)
deriving DecidableEq

namespace SchemaError

def message : SchemaError → String
  | malformed problem => "malformed node description: " ++ problem.message
  | invalid message => "invalid node description: " ++ message

/-- A sequence item of a shape that items cannot have. -/
def badItem (shape : String) : SchemaError :=
  invalid ("configuration sequence items must be mappings or lists, found " ++ shape)

end SchemaError

/-- A configuration sequence. An item of a sequence is a mapping, each entry of which is a call, or
a list of items; lists flatten in the order of their items. -/
inductive ConfigSequence
  /-- A mapping: every entry is one call. -/
  | steps (calls : List Call)
  /-- A list of items, applied in turn. -/
  | nested (items : List ConfigSequence)

namespace ConfigSequence

/-- The mapping item of a list of methods with declared values. -/
def ofPairs (pairs : List (String × Value)) : ConfigSequence :=
  steps (pairs.map fun (method, value) => Call.shaped method value)

mutual

/-- The calls, in the order in which they are made. -/
def calls : ConfigSequence → List Call
  | steps calls => calls
  | nested items => callsOf items

/-- The calls of several items. -/
def callsOf : List ConfigSequence → List Call
  | [] => []
  | item :: rest => calls item ++ callsOf rest

end

mutual

/-- Whether the sequence makes no call. -/
def isEmpty : ConfigSequence → Bool
  | steps calls => calls.isEmpty
  | nested items => areEmpty items

/-- Whether no item makes a call. -/
def areEmpty : List ConfigSequence → Bool
  | [] => true
  | item :: rest => isEmpty item && areEmpty rest

end

mutual

/-- The sequence that a value declares. The first item that is neither a mapping nor a list is
refused. -/
def ofValue? : Value → Except SchemaError ConfigSequence
  | .mapping entries => .ok (steps (Call.ofMapping entries))
  | .list items => do
    let items ← ofValues? items
    return nested items
  | other => .error (.badItem other.shape)

/-- The sequences that several values declare. -/
def ofValues? : List Value → Except SchemaError (List ConfigSequence)
  | [] => .ok []
  | value :: rest => do
    let item ← ofValue? value
    let items ← ofValues? rest
    return item :: items

end

/-- A sequence with one item more at its end. -/
def append : Option ConfigSequence → ConfigSequence → ConfigSequence
  | none, item => item
  | some (nested items), item => nested (items ++ [item])
  | some (steps calls), item => nested [steps calls, item]

end ConfigSequence

end WidgetTree
