import WidgetTree.Json.Text

namespace WidgetTree

open Json

/-- What happens when a binding name is already taken. -/
inductive BindingPolicy
  /-- The build fails. -/
  | reject
  /-- The name goes to the newer element. -/
  | overwrite
deriving DecidableEq

namespace BindingPolicy

/-- The name of a policy in configurations. -/
def name : BindingPolicy → String
  | reject => "reject"
  | overwrite => "overwrite"

def ofName? (name : String) : Except Problem BindingPolicy :=
  if name = reject.name then .ok reject
  else if name = overwrite.name then .ok overwrite
  else .error (.mismatch (.unknownVariant name [reject.name, overwrite.name]))

end BindingPolicy

/-- The defaults of a builder. -/
structure Config where
  /-- The widget type of a window whose node names none. -/
  rootWidgetType : String := "Tk"
  /-- The geometry that every window is given first. -/
  defaultGeometry : Option String := some "600x600"
  /-- The title that every window is given first. -/
  defaultTitle : Option String := some "Main Window"
  /-- The widget type of registers. -/
  registerWidgetType : String := "Notebook"
  /-- How nodes attach that do not say so. -/
  defaultAttachStrategy : Option String := none
  bindingPolicy : BindingPolicy := .reject
deriving DecidableEq

instance : Inhabited Config := ⟨{}⟩

/-- The settings of a configuration, in their fixed order. -/
inductive ConfigField
  | rootWidgetType
  | defaultGeometry
  | defaultTitle
  | registerWidgetType
  | defaultAttachStrategy
  | bindingPolicy
deriving DecidableEq

namespace ConfigField

/-- All settings, in their fixed order. -/
def all : List ConfigField :=
  [rootWidgetType, defaultGeometry, defaultTitle, registerWidgetType, defaultAttachStrategy,
    bindingPolicy]

def name : ConfigField → String
  | rootWidgetType => "root_widget_type"
  | defaultGeometry => "default_geometry"
  | defaultTitle => "default_title"
  | registerWidgetType => "register_widget_type"
  | defaultAttachStrategy => "default_attach_strategy"
  | bindingPolicy => "binding_policy"

def ofName? (name : String) : Option ConfigField := all.find? (·.name == name)

end ConfigField

/-- A policy, from its name or from an object whose one member has that name and holds null. A
document that is still being read may stop making sense only behind the place looked at. -/
def decodePolicy (mode : Mode) (document : Document) : Except Problem BindingPolicy :=
  match document, mode with
  | .string name, _ => BindingPolicy.ofName? name
  | .object [(.ok name, payload)] fault, _ => do
    let policy ← BindingPolicy.ofName? name
    checkPayload payload
    liftFault (closed fault)
    return policy
  | .object ((.ok name, payload) :: _ :: _) _, .streamed => do
    let _ ← BindingPolicy.ofName? name
    checkPayload payload
    throw (.fault .malformed)
  | .object ((.error fault, _) :: _) _, .streamed => .error (.fault fault)
  | .object [] _, .streamed => .error (.fault .malformed)
  | .object _ _, .whole => .error (.mismatch (.invalidValue "map" "map with a single key"))
  | .broken fault, _ => .error (.fault fault)
  | _, .streamed => .error (.fault .malformed)
  | other, .whole => .error (other.unexpected "string or map")
where
  /-- A policy holds nothing. -/
  checkPayload : Document → Except Problem Unit
    | .null => .ok ()
    | other => .error (other.unexpected "unit")

namespace Config

/-- Reads one setting into a configuration. -/
def decodeSetting (mode : Mode) (field : ConfigField) (document : Document) (config : Config) :
    Except Problem Config :=
  match field with
  | .rootWidgetType => return { config with rootWidgetType := ← document.text? }
  | .defaultGeometry => return { config with defaultGeometry := ← document.optionalText? }
  | .defaultTitle => return { config with defaultTitle := ← document.optionalText? }
  | .registerWidgetType => return { config with registerWidgetType := ← document.text? }
  | .defaultAttachStrategy =>
    return { config with defaultAttachStrategy := ← document.optionalText? }
  | .bindingPolicy => return { config with bindingPolicy := ← decodePolicy mode document }

/-- Reads the members of an object, given the settings that were read before. -/
def decodeMembers (mode : Mode) :
    List (Except Fault String × Document) → List ConfigField → Config → Except Problem Config
  | [], _, config => .ok config
  | (name, document) :: rest, given, config => do
    let name ← liftFault name
    match ConfigField.ofName? name with
    | none => throw (.mismatch (.unknownField name (ConfigField.all.map (·.name))))
    | some field =>
      if field ∈ given then throw (.mismatch (.duplicateField field.name))
      let config ← decodeSetting mode field document config
      decodeMembers mode rest (field :: given) config

/-- Reads the items of a list as the given settings in turn; gives the items behind the last of
them too. -/
def decodeItems (mode : Mode) :
    List ConfigField → List Document → Config → Except Problem (Config × List Document)
  | [], items, config => .ok (config, items)
  | _ :: _, [], config => .ok (config, [])
  | field :: fields, document :: rest, config => do
    let config ← decodeSetting mode field document config
    decodeItems mode fields rest config

/-- The configuration that a document describes. What it does not say stays at its default. -/
def decode (mode : Mode) : Document → Except Problem Config
  | .object members fault => do
    let config ← decodeMembers mode members [] {}
    liftFault (closed fault)
    return config
  | .list items fault => do
    let (config, surplus) ← decodeItems mode ConfigField.all items {}
    endOfList mode items.length surplus fault
    return config
  | other => .error (other.unexpected "struct BuilderConfig")

/-- The configuration that a document read before describes. -/
def ofDocument? (document : Document) : Except Problem Config := decode .whole document

/-- The configuration that a text describes, decoded while it is read. -/
def ofText? (text : String) : Except Problem Config := decodeText (decode .streamed) text

end Config

end WidgetTree
