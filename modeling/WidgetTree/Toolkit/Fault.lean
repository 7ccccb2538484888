import WidgetTree.Table
import WidgetTree.Toolkit.Interface

namespace WidgetTree

/-- An operation that may fail. -/
inductive Operation
  | construct
  | attach
  | setAttribute
  | invoke
  | destroy
  | readVariable
  | writeVariable
deriving DecidableEq

/-- A toolkit with the plans for its coming calls. It answers the coming calls of some of its
operations from a plan, one by one: an error in the plan is given instead of making the call, and a
gap lets the call through. -/
structure Faulty (σ : Type) where
  toolkit : σ
  plans : Table Operation (List (Option ToolkitError)) := []

namespace Faulty

variable {σ : Type}

/-- Plans the coming calls of an operation. An earlier plan for it is dropped. -/
def plan (state : Faulty σ) (operation : Operation) (answers : List (Option ToolkitError)) :
    Faulty σ :=
  { state with plans := state.plans.insert operation answers }

/-- Makes a call, unless the plan for its operation has an error next. -/
def guard {α : Type} (operation : Operation) (call : σ → Outcome σ α) (state : Faulty σ) :
    Outcome (Faulty σ) α :=
  let pass (state : Faulty σ) : Outcome (Faulty σ) α :=
    let (answer, toolkit) := call state.toolkit
    (answer, { state with toolkit })
  match state.plans.get? operation with
  | some (some error :: rest) => (.error error, state.plan operation rest)
  | some (none :: rest) => pass (state.plan operation rest)
  | _ => pass state

instance [Toolkit σ] : Toolkit (Faulty σ) where
  construct widgetType parent args := guard .construct (Toolkit.construct widgetType parent args)
  attach widget strategy args := guard .attach (Toolkit.attach widget strategy args)
  setAttribute widget name value := guard .setAttribute (Toolkit.setAttribute widget name value)
  invoke widget call := guard .invoke (Toolkit.invoke widget call)
  destroy widget := guard .destroy (Toolkit.destroy widget)
  createVariable value state :=
    let (handle, toolkit) := Toolkit.createVariable value state.toolkit
    (handle, { state with toolkit })
  readVariable handle := guard .readVariable (Toolkit.readVariable handle)
  writeVariable handle value := guard .writeVariable (Toolkit.writeVariable handle value)
  registerCommand state :=
    let (handle, toolkit) := Toolkit.registerCommand state.toolkit
    (handle, { state with toolkit })

end Faulty

end WidgetTree
