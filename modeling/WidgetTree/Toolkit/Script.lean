import WidgetTree.Toolkit.Interface

namespace WidgetTree

/-- An operation of a toolkit with its arguments. -/
inductive Query
  | construct (widgetType : String) (parent : Option WidgetId) (args : Fields Value)
  | attach (widget : WidgetId) (strategy : String) (args : Fields Value)
  | setAttribute (widget : WidgetId) (name : String) (value : Value)
  | invoke (widget : WidgetId) (call : Call)
  | destroy (widget : WidgetId)
  | createVariable (value : Value)
  | readVariable (handle : VariableId)
  | writeVariable (handle : VariableId) (value : Value)
  | registerCommand

namespace Query

/-- What the operation answers. -/
def Reply : Query → Type
  | construct .. => Except ToolkitError WidgetId
  | attach .. | setAttribute .. | destroy _ | writeVariable .. => Except ToolkitError Unit
  | invoke .. | readVariable _ => Except ToolkitError Value
  | createVariable _ => VariableId
  | registerCommand => CommandId

/-- Carries out the operation. -/
def perform {σ : Type} [Toolkit σ] : (query : Query) → σ → query.Reply × σ
  | construct widgetType parent args => Toolkit.construct widgetType parent args
  | attach widget strategy args => Toolkit.attach widget strategy args
  | setAttribute widget name value => Toolkit.setAttribute widget name value
  | invoke widget call => Toolkit.invoke widget call
  | destroy widget => Toolkit.destroy widget
  | createVariable value => Toolkit.createVariable value
  | readVariable handle => Toolkit.readVariable handle
  | writeVariable handle value => Toolkit.writeVariable handle value
  | registerCommand => Toolkit.registerCommand

end Query

/-- A use of a toolkit that comes to a result: one operation after the other, each chosen by what
those before have answered. -/
inductive Script (α : Type)
  | done (result : α)
  | ask (query : Query) (next : query.Reply → Script α)

namespace Script

/-- Uses a toolkit as the script says. -/
def perform {σ α : Type} [Toolkit σ] : Script α → σ → α × σ
  | done result, toolkit => (result, toolkit)
  | ask query next, toolkit =>
    let (reply, toolkit) := query.perform toolkit
    (next reply).perform toolkit

/-- Some toolkit makes the script come to this result. -/
def Yields {α : Type} (script : Script α) (result : α) : Prop :=
  ∃ (σ : Type) (_ : Toolkit σ) (toolkit : σ), (script.perform toolkit).1 = result

end Script

end WidgetTree
