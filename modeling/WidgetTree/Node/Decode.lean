import WidgetTree.Json.Text
import WidgetTree.Node.Tree

namespace WidgetTree

open Json

/-- The settings of a node, in their fixed order. -/
inductive NodeField
  | id
  | kind
  | widgetType
  | attachStrategy
  | childrenAttachStrategy
  | constructorArgs
  | attributes
  | attachArgs
  | sequence
  | hook
  | binding
  | children
deriving DecidableEq

namespace NodeField

/-- All settings, in their fixed order. -/
def all : List NodeField :=
  [id, kind, widgetType, attachStrategy, childrenAttachStrategy, constructorArgs, attributes,
    attachArgs, sequence, hook, binding, children]

/-- The name of a setting in descriptions. -/
def name : NodeField → String
  | id => "id"
  | kind => "kind"
  | widgetType => "widget_type"
  | attachStrategy => "attach_strategy"
  | childrenAttachStrategy => "children_attach_strategy"
  | constructorArgs => "constructor_args"
  | attributes => "post_construction_attributes"
  | attachArgs => "attach_args"
  | sequence => "configuration_sequence"
  | hook => "post_subtree_hook"
  | binding => "binding_name"
  | children => "children"

/-- The older name of a setting. -/
def olderName? : NodeField → Option String
  | id => none
  | kind => some "class_ui"
  | widgetType => some "module"
  | attachStrategy => some "loader"
  | childrenAttachStrategy => some "children_loader"
  | constructorArgs => some "arguments"
  | attributes => some "attributes"
  | attachArgs => some "loader_arguments"
  | sequence => some "sequence_methods"
  | hook => some "post_hook"
  | binding => some "bind_to"
  | children => none

/-- Whether a member of this name gives the setting. -/
def answersTo (field : NodeField) (name : String) : Bool :=
  field.name == name || field.olderName? == some name

/-- The setting that a member of this name gives. -/
def ofName? (name : String) : Option NodeField := all.find? (·.answersTo name)

/-- Both names of a setting, in the order of the alphabet. -/
def bothNames (field : NodeField) : List String :=
  match field.olderName? with
  | none => [field.name]
  | some older => if older < field.name then [older, field.name] else [field.name, older]

/-- Every name that a member may have. -/
def acceptedNames : List String := all.flatMap bothNames

end NodeField

/-- What messages call the form of a node. -/
def nodeForm : String := "struct RawNode"

/-- A node of which some settings were read. -/
structure NodeDraft where
  /-- The settings that were given. -/
  given : List NodeField := []
  spec : NodeSpec := {}
  children : List NodeTree := []

namespace NodeDraft

/-- The setting that a member of this name gives, which must not have been given before. -/
def accept (draft : NodeDraft) (name : String) : Except Problem NodeField :=
  match NodeField.ofName? name with
  | none => .error (.mismatch (.unknownField name NodeField.acceptedNames))
  | some field =>
    if field ∈ draft.given then .error (.mismatch (.duplicateField field.name)) else .ok field

/-- The finished node. An id must have been given. -/
def finish (draft : NodeDraft) : Except Problem NodeTree :=
  if .id ∈ draft.given then .ok (.settled draft.spec draft.children)
  else .error (.mismatch (.missingField NodeField.id.name))

end NodeDraft

/-- A configuration sequence. The document is read as a value before the value is looked at. -/
def decodeSequence (document : Document) : Except Problem ConfigSequence := do
  let value ← liftFault document.value?
  match ConfigSequence.ofValue? value with
  | .ok sequence => return sequence
  | .error error => throw (.mismatch (.refused error.message))

/-- A configuration sequence, or nothing if null stands there. -/
def decodeOptionalSequence : Document → Except Problem (Option ConfigSequence)
  | .null => .ok none
  | document => (decodeSequence document).map some

/-- Reads a setting other than the children into the settings read so far. -/
def decodeSetting (field : NodeField) (document : Document) (spec : NodeSpec) :
    Except Problem NodeSpec :=
  match field with
  | .id => return { spec with id := ← document.text? }
  | .kind => return { spec with kind := ← document.optionalText? }
  | .widgetType => return { spec with widgetType := ← document.optionalText? }
  | .attachStrategy => return { spec with attachStrategy := ← document.optionalText? }
  | .childrenAttachStrategy =>
    return { spec with childrenAttachStrategy := ← document.optionalText? }
  | .constructorArgs => return { spec with constructorArgs := ← document.fields? }
  | .attributes => return { spec with attributes := ← document.fields? }
  | .attachArgs => return { spec with attachArgs := ← document.fields? }
  | .sequence => return { spec with sequence := ← decodeOptionalSequence document }
  | .hook => return { spec with hook := Call.ofMapping (← document.fields?) }
  | .binding => return { spec with binding := ← document.optionalText? }
  | .children => return spec

mutual

/-- The node that a document describes. It is read from an object with the node's settings under
their names, each of which has at most one older name too, or from a list with the settings in their
fixed order. Members are read in the order of the document and the first problem counts; only a
missing id is noticed at the end. -/
def decodeNode (mode : Mode) : Document → Except Problem NodeTree
  | .object members fault => do
    let draft ← decodeMembers mode members {}
    liftFault (closed fault)
    draft.finish
  | .list items fault => do
    let (draft, surplus) ← decodeFields mode NodeField.all items fault {}
    let tree ← draft.finish
    endOfList mode items.length surplus fault
    return tree
  | .null => .error (Document.null.unexpected nodeForm)
  | .bool flag => .error ((Document.bool flag).unexpected nodeForm)
  | .number number => .error ((Document.number number).unexpected nodeForm)
  | .string text => .error ((Document.string text).unexpected nodeForm)
  | .broken fault => .error (.fault fault)

/-- Reads the members of an object into a draft. -/
def decodeMembers (mode : Mode) :
    List (Except Fault String × Document) → NodeDraft → Except Problem NodeDraft
  | [], draft => .ok draft
  | (name, document) :: rest, draft => do
    let name ← liftFault name
    let field ← draft.accept name
    let draft ← decodeField mode field document draft
    decodeMembers mode rest draft

/-- Reads the items of a list into a draft, as the given settings in turn; gives the items behind
the last of them too. The id may not be missing. -/
def decodeFields (mode : Mode) :
    List NodeField → List Document → Option Fault → NodeDraft →
      Except Problem (NodeDraft × List Document)
  | [], items, _, draft => .ok (draft, items)
  | field :: _, [], fault, draft => do
    liftFault (closed fault)
    if field = .id then throw (.mismatch (.invalidLength 0 (nodeForm ++ " with 12 elements")))
    return (draft, [])
  | field :: fields, document :: rest, fault, draft => do
    let draft ← decodeField mode field document draft
    decodeFields mode fields rest fault draft

/-- Reads one setting into a draft. Null stands for no children. -/
def decodeField (mode : Mode) (field : NodeField) :
    Document → NodeDraft → Except Problem NodeDraft
  | document, draft =>
    let draft := { draft with given := field :: draft.given }
    if field = .children then
      match document with
      | .null => .ok draft
      | .list items fault => do
        let children ← decodeNodes mode items
        liftFault (closed fault)
        return { draft with children }
      | other => .error (other.unexpected "a sequence")
    else do
      let spec ← decodeSetting field document draft.spec
      return { draft with spec }

/-- The nodes that several documents describe. -/
def decodeNodes (mode : Mode) : List Document → Except Problem (List NodeTree)
  | [] => .ok []
  | document :: rest => do
    let tree ← decodeNode mode document
    let trees ← decodeNodes mode rest
    return tree :: trees

end

namespace NodeTree

/-- The tree that a document read before describes. -/
def ofDocument? (document : Document) : Except SchemaError NodeTree :=
  (decodeNode .whole document).mapError .malformed

/-- The tree that a text describes, decoded while it is read. -/
def ofText? (text : String) : Except Problem NodeTree := decodeText (decodeNode .streamed) text

end NodeTree

namespace ConfigSequence

/-- The sequence that a text declares, decoded while it is read. -/
def ofText? (text : String) : Except Problem ConfigSequence := decodeText decodeSequence text

end ConfigSequence

end WidgetTree
