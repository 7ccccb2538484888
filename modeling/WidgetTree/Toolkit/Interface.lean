import WidgetTree.Call
import WidgetTree.Toolkit.Error

namespace WidgetTree

/-- What an operation on a state `σ` gives: a result or the reason of its failure, and the state
afterwards. -/
abbrev Outcome (σ α : Type) := Except ToolkitError α × σ

/-- The operations of a toolkit whose state is a `σ`. A toolkit owns widgets, state variables and
commands, and hands out handles to them. An operation that fails gives a reason, and the toolkit
that it leaves is given in either case. -/
class Toolkit (σ : Type) where
  /-- Constructs a widget of the given type inside a parent, or at the top without one. -/
  construct : String → Option WidgetId → Fields Value → σ → Outcome σ WidgetId
  /-- Attaches a widget to its parent's layout by a strategy with arguments. -/
  attach : WidgetId → String → Fields Value → σ → Outcome σ Unit
  /-- Assigns an attribute of a widget. -/
  setAttribute : WidgetId → String → Value → σ → Outcome σ Unit
  /-- Calls a method of a widget. -/
  invoke : WidgetId → Call → σ → Outcome σ Value
  /-- Destroys a widget with all widgets inside it. -/
  destroy : WidgetId → σ → Outcome σ Unit
  /-- Creates a state variable that holds a value. -/
  createVariable : Value → σ → VariableId × σ
  /-- Reads a state variable. -/
  readVariable : VariableId → σ → Outcome σ Value
  /-- Writes a state variable. -/
  writeVariable : VariableId → Value → σ → Outcome σ Unit
  /-- Registers a fresh command. -/
  registerCommand : σ → CommandId × σ

end WidgetTree
