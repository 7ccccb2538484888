import WidgetTree.Node.Sequence
import WidgetTree.Toolkit.Error

namespace WidgetTree

open Text

/-- What a kind was looked up for. -/
inductive ResolutionScope
  | element
  | rowStrategy
deriving DecidableEq

namespace ResolutionScope

def name : ResolutionScope → String
  | element => "element"
  | rowStrategy => "row strategy"

end ResolutionScope

/-- Why building or working on an element failed. Most errors name the node at fault. -/
inductive BuildError
  | schema (error : SchemaError)
  /-- Nothing is registered for a kind. -/
  | resolution (scope : ResolutionScope) (kind : String)
  /-- The widget does not support the strategy. -/
  | attachment (node widgetType strategy : String)
  /-- The widget lacks a method or refuses its arguments. -/
  | invocation (node method : String) (source : ToolkitError)
  /-- The description or the state of an element does not allow what was asked. -/
  | configuration (node message : String)
  /-- The toolkit failed in any other way. -/
  | toolkit (node : String) (source : ToolkitError)
deriving DecidableEq

namespace BuildError

def message : BuildError → String
  | schema error => error.message
  | resolution scope kind => "no " ++ scope.name ++ " registered for kind " ++ backquote kind
  | attachment node widgetType strategy =>
    "node " ++ backquote node ++ ": cannot attach " ++ backquote widgetType ++ " with " ++
      backquote strategy
  | invocation node method source =>
    "node " ++ backquote node ++ ": cannot invoke " ++ backquote method ++ ": " ++ source.message
  | configuration node message => "node " ++ backquote node ++ ": " ++ message
  | toolkit node source => "node " ++ backquote node ++ ": " ++ source.message

/-- The node at fault. -/
def node? : BuildError → Option String
  | attachment node _ _ | invocation node _ _ | configuration node _ | toolkit node _ => some node
  | schema _ | resolution _ _ => none

/-- The toolkit error behind it. -/
def source? : BuildError → Option ToolkitError
  | invocation _ _ source | toolkit _ source => some source
  | _ => none

/-- The error of a failed call of a method. -/
def ofInvoke (node method : String) : ToolkitError → BuildError
  | .unknownMethod widgetType name => invocation node method (.unknownMethod widgetType name)
  | .invalidArguments name message => invocation node method (.invalidArguments name message)
  | other => toolkit node other

/-- The error of a failed attachment. -/
def ofAttach (node : String) : ToolkitError → BuildError
  | .unsupportedAttach widgetType strategy => attachment node widgetType strategy
  | other => toolkit node other

end BuildError

end WidgetTree
