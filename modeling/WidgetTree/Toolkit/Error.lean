import WidgetTree.Text.Quoted

namespace WidgetTree

open Text

/-- Why a toolkit refused an operation. -/
inductive ToolkitError
  | unknownWidgetType (widgetType : String)
  | unsupportedAttach (widgetType strategy : String)
  | unknownMethod (widgetType method : String)
  | invalidArguments (method message : String)
  | deadWidget
  | deadVariable
deriving DecidableEq

namespace ToolkitError

def message : ToolkitError → String
  | unknownWidgetType widgetType => "unknown widget type " ++ backquote widgetType
  | unsupportedAttach widgetType strategy =>
    backquote widgetType ++ " does not support attach strategy " ++ backquote strategy
  | unknownMethod widgetType method => backquote widgetType ++ " has no method " ++ backquote method
  | invalidArguments method message =>
    "invalid arguments for " ++ backquote method ++ ": " ++ message
  | deadWidget => "widget no longer exists"
  | deadVariable => "variable no longer exists"

end ToolkitError

end WidgetTree
