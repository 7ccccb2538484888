import WidgetTree.Json.Document

namespace WidgetTree.Json

open Text

/-- A document that does not have the form that was expected. -/
inductive Mismatch
  | missingField (name : String)
  | duplicateField (name : String)
  | unknownField (name : String) (accepted : List String)
  | unknownVariant (name : String) (accepted : List String)
  | invalidType (found expected : String)
  | invalidValue (found expected : String)
  | invalidLength (length : Nat) (expected : String)
  /-- A value of the right form that was refused for a reason of its own. -/
  | refused (message : String)
deriving DecidableEq

/-- Why a document could not be decoded: its text, or its form. -/
inductive Problem
  | fault (fault : Fault)
  | mismatch (mismatch : Mismatch)
deriving DecidableEq

/-- Numbers in messages are written positionally from 0.00001 up to below ten million billions, and
whole ones with a point. Between two decimals the one with an even last digit wins. -/
def numberLayout : Decimal.Layout where
  tie := .even
  positional := some (-5, 15)
  wholeMark := ['.', '0']

/-- How messages list names of which one is accepted. -/
def alternatives : List String → String
  | [] => "there are none"
  | [only] => "expected " ++ backquote only
  | [one, other] => "expected " ++ backquote one ++ " or " ++ backquote other
  | names => "expected one of " ++ ", ".intercalate (names.map backquote)

namespace Mismatch

def message : Mismatch → String
  | missingField name => "missing field " ++ backquote name
  | duplicateField name => "duplicate field " ++ backquote name
  | unknownField name accepted =>
    "unknown field " ++ backquote name ++ ", " ++ alternatives accepted
  | unknownVariant name accepted =>
    "unknown variant " ++ backquote name ++ ", " ++ alternatives accepted
  | invalidType found expected => "invalid type: " ++ found ++ ", expected " ++ expected
  | invalidValue found expected => "invalid value: " ++ found ++ ", expected " ++ expected
  | invalidLength length expected => s!"invalid length {length}, expected " ++ expected
  | refused message => message

end Mismatch

namespace Problem

def message : Problem → String
  | fault .malformed => "the text is malformed"
  | fault .truncated => "the text ends early"
  | mismatch m => m.message

end Problem

/-- A result whose only errors are faults, among results with other problems. -/
def liftFault {α : Type} : Except Fault α → Except Problem α
  | .ok result => .ok result
  | .error fault => .error (.fault fault)

namespace Document

/-- How messages name what stands in a document, unless nothing sensible does. -/
def found : Document → Except Fault String
  | null => .ok "null"
  | bool flag => .ok ("boolean " ++ backquote (if flag then "true" else "false"))
  | number (.natural n) => .ok ("integer " ++ backquote (toString n))
  | number (.negative n) => .ok ("integer " ++ backquote (toString n))
  | number (.real x) => .ok ("floating point " ++ backquote (numberLayout.double x))
  | string text => .ok ("string " ++ quote text)
  | list _ _ => .ok "sequence"
  | object _ _ => .ok "map"
  | broken fault => .error fault

/-- The problem with a document that stands where something else was expected. -/
def unexpected (document : Document) (expected : String) : Problem :=
  match document.found with
  | .ok found => .mismatch (.invalidType found expected)
  | .error fault => .fault fault

/-- A text. -/
def text? : Document → Except Problem String
  | string text => .ok text
  | other => .error (other.unexpected "a string")

/-- A text, or nothing if null stands there. -/
def optionalText? : Document → Except Problem (Option String)
  | null => .ok none
  | other => (other.text?).map some

/-- Keyword arguments; null counts as none. -/
def fields? : Document → Except Problem (Fields Value)
  | null => .ok []
  | object members fault => liftFault do
    let entries ← entries? members
    closed fault
    return Table.ofPairs entries
  | other => .error (other.unexpected "a map")

end Document

/-- How a document is decoded: as a whole that was read before, or while its text is being read.
The two differ in what they say about a list that is too long and about an alternative. -/
inductive Mode
  | whole
  | streamed
deriving DecidableEq

/-- Checks the end of a list of `length` items that gave fields: nothing may stand behind the last
of them, and the list must end. -/
def endOfList (mode : Mode) (length : Nat) (surplus : List Document) (fault : Option Fault) :
    Except Problem Unit :=
  match surplus, mode with
  | [], _ => liftFault (closed fault)
  | _ :: _, .streamed => .error (.fault .malformed)
  | _ :: _, .whole => .error (.mismatch (.invalidLength length "fewer elements in array"))

end WidgetTree.Json
