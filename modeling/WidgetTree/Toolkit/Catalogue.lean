namespace WidgetTree

/-- A class of widgets. A class that cannot be attached is a window of its own. -/
structure WidgetClass where
  name : String
  /-- The strategies by which a widget of the class can be attached. -/
  strategies : List String
  /-- The methods that not every class has. -/
  methods : List String
deriving DecidableEq

/-- The methods that every class has. -/
def commonMethods : List String :=
  ["configure", "config", "cget", "keys", "bind", "focus_set", "update", "update_idletasks"]

/-- The strategies of every class that can be attached at all. -/
def layoutStrategies : List String := ["pack", "grid", "place"]

/-- The methods of windows. -/
def windowMethods : List String :=
  ["geometry", "title", "resizable", "minsize", "maxsize", "protocol", "attributes", "iconbitmap",
    "mainloop"]

namespace WidgetClass

/-- A window of its own. -/
def window (name : String) : WidgetClass := ⟨name, [], windowMethods⟩

/-- A widget that stands in the layout of its parent. -/
def inner (name : String) (methods : List String) : WidgetClass := ⟨name, layoutStrategies, methods⟩

def supports (cls : WidgetClass) (strategy : String) : Bool := cls.strategies.contains strategy

def hasMethod (cls : WidgetClass) (method : String) : Bool :=
  commonMethods.contains method || cls.methods.contains method

/-- Whether the class cannot be attached. -/
def isWindow (cls : WidgetClass) : Bool := cls.strategies.isEmpty

/-- All classes. -/
def catalogue : List WidgetClass :=
  [ window "Tk",
    window "Toplevel",
    inner "Frame" [],
    inner "LabelFrame" [],
    inner "Label" [],
    inner "Button" ["invoke", "flash"],
    inner "Checkbutton" ["select", "deselect", "toggle", "invoke", "flash"],
    inner "Entry" ["insert", "delete", "get", "icursor"],
    inner "Listbox" ["insert", "delete", "get", "size", "curselection"],
    inner "Notebook" ["add", "tabs", "select", "index"] ]

/-- The class of this name. -/
def ofName? (name : String) : Option WidgetClass := catalogue.find? (·.name == name)

end WidgetClass

end WidgetTree
