import WidgetTree.Forest.Widgets
import WidgetTree.Forest.Behaviour

namespace WidgetTree.Forest

/-- Creates a state variable. -/
def createVariable (value : Value) (forest : Forest) : VariableId × Forest :=
  (⟨forest.heldValues.length + 1⟩, { forest with heldValues := forest.heldValues ++ [value] })

/-- The value of a state variable. -/
def valueIn? (forest : Forest) (handle : VariableId) : Option Value :=
  if handle.number = 0 then none else forest.heldValues[handle.number - 1]?

/-- Reads a state variable. -/
def readVariable (handle : VariableId) (forest : Forest) : Outcome Forest Value :=
  match forest.valueIn? handle with
  | none => (.error .deadVariable, forest)
  | some value => (.ok value, forest)

/-- Writes a state variable. -/
def writeVariable (handle : VariableId) (value : Value) (forest : Forest) : Outcome Forest Unit :=
  match forest.valueIn? handle with
  | none => (.error .deadVariable, forest)
  | some _ =>
    (.ok (), { forest with heldValues := forest.heldValues.set (handle.number - 1) value })

/-- Registers a fresh command. -/
def registerCommand (forest : Forest) : CommandId × Forest :=
  (⟨forest.commands + 1⟩, { forest with commands := forest.commands + 1 })

/-- Whether a command was registered under this handle. -/
def hasCommand (forest : Forest) (handle : CommandId) : Bool :=
  0 < handle.number && handle.number ≤ forest.commands

/-- Fires a command, if it was registered. -/
def fireCommand (forest : Forest) (handle : CommandId) : Forest :=
  if forest.hasCommand handle then { forest with fired := forest.fired ++ [handle] } else forest

/-- Fires the command that the options of a widget name, if any. -/
def fireBound (forest : Forest) (record : Record) : Forest :=
  match (record.option? "command").bind Value.command? with
  | none => forest
  | some handle => forest.fireCommand handle

/-- Writes the on or off value to the state variable that the options of a widget name, if any.
Without being told which, it writes the off value exactly when the variable holds the on value. -/
def check (forest : Forest) (record : Record) (on : Option Bool) : Outcome Forest Value :=
  match (record.option? "variable").bind Value.stateVariable? with
  | none => (.ok .null, forest)
  | some handle =>
    match forest.valueIn? handle with
    | none => (.error .deadVariable, forest)
    | some current =>
      let onValue := (record.option? "onvalue").getD (.int 1)
      let offValue := (record.option? "offvalue").getD (.int 0)
      let value := if on.getD (!current.same onValue) then onValue else offValue
      let (_, forest) := forest.writeVariable handle value
      (.ok .null, forest)

/-- Carries out what a method does with the record of its widget alone. -/
def performLocally (forest : Forest) (widget : WidgetId) (record : Record) (behaviour : Behaviour)
    (call : Call) : Outcome Forest Value :=
  match record.perform behaviour call with
  | .error error => (.error error, forest)
  | .ok (answer, record) => (.ok answer, forest.modify widget fun _ => record)

/-- Carries out a call that was taken note of. A page must be live to be added. -/
def carryOut (forest : Forest) (widget : WidgetId) (record : Record) (behaviour : Behaviour)
    (call : Call) : Outcome Forest Value :=
  match behaviour with
  | .check on => forest.check record on
  | .checkAndFire =>
    match forest.check record none with
    | (.error error, forest) => (.error error, forest)
    | (.ok _, forest) => (.ok .null, forest.fireBound record)
  | .fire => (.ok .null, forest.fireBound record)
  | .addTab =>
    if (call.args.positional.head?.bind Value.widget?).any (!forest.contains ·) then
      (.error .deadWidget, forest)
    else forest.performLocally widget record .addTab call
  | behaviour => forest.performLocally widget record behaviour call

/-- Takes note of a call in the record of its widget. -/
def noteCall (call : Call) (record : Record) : Record :=
  { record with calls := record.calls ++ [call] }

/-- Calls a method of a live widget whose class has it. The call is taken note of, in the widget's
record and in the journal, before it is carried out. -/
def invoke (widget : WidgetId) (call : Call) (forest : Forest) : Outcome Forest Value :=
  match forest.classOf widget, forest.record? widget with
  | .error error, _ => (.error error, forest)
  | .ok _, none => (.error .deadWidget, forest)
  | .ok cls, some record =>
    if cls.hasMethod call.method then
      let noted := (forest.modify widget (noteCall call)).log (.invoked widget call.method)
      noted.carryOut widget (noteCall call record) (Behaviour.of cls.name call.method) call
    else (.error (.unknownMethod cls.name call.method), forest)

instance : Toolkit Forest where
  construct := construct
  attach := attach
  setAttribute := setAttribute
  invoke := invoke
  destroy := destroy
  createVariable := createVariable
  readVariable := readVariable
  writeVariable := writeVariable
  registerCommand := registerCommand

end WidgetTree.Forest
