import WidgetTree.Proofs.Forest.Switch
import WidgetTree.Proofs.Rows.Request

namespace WidgetTree

/-- What the state variable of a row holds. -/
def Value.ofChecked (checked : Bool) : Value := .int (if checked then 1 else 0)

/-- What a row's variable holds is as true as the row is checked. -/
@[simp] theorem Value.truthy_ofChecked (checked : Bool) :
    (Value.ofChecked checked).truthy = checked := by
  cases checked <;> rfl

/-- A row is checked if its variable holds 1. -/
theorem Value.same_ofChecked (checked : Bool) :
    (Value.ofChecked checked).same (.int 1) = checked := by
  cases checked <;> simp [ofChecked, same]

/-- The record of a check button that shares a state variable, and writes 1 or 0 to it. -/
structure Record.Ticks (handle : VariableId) (record : Record) : Prop where
  widgetType : record.widgetType = "Checkbutton"
  shared : record.option? "variable" = some (.stateVariable handle)
  onvalue : record.option? "onvalue" = none
  offvalue : record.option? "offvalue" = none
  command : record.option? "command" = none

/-- A call that is noted leaves the options of a check button. -/
theorem Record.Ticks.noteCall {handle : VariableId} {record : Record}
    (hticks : record.Ticks handle) (made : Call) : (Forest.noteCall made record).Ticks handle :=
  ⟨hticks.widgetType, hticks.shared, hticks.onvalue, hticks.offvalue, hticks.command⟩

/-- The methods of a check button that write to its state variable. -/
def tickMethods : List String := ["select", "deselect", "toggle", "invoke"]

/-- Whether a button is checked after a call of such a method. -/
def ticked (method : String) (checked : Bool) : Bool :=
  match method with
  | "select" => true
  | "deselect" => false
  | _ => !checked

namespace Behaviour

/-- The tick methods of a check button write to its variable. -/
theorem checks_of_tickMethods {method : String} (hmethod : method ∈ tickMethods) :
    (of "Checkbutton" method).Checks := by
  simp only [tickMethods, List.mem_cons, List.not_mem_nil, or_false] at hmethod
  rcases hmethod with rfl | rfl | rfl | rfl
  · exact .inl ⟨some true, rfl⟩
  · exact .inl ⟨some false, rfl⟩
  · exact .inl ⟨none, rfl⟩
  · exact .inr rfl

/-- No other methods write to a variable than the tick methods. -/
theorem mem_tickMethods {widgetType method : String} (hchecks : (of widgetType method).Checks) :
    method ∈ tickMethods := by
  unfold of Checks at hchecks
  split at hchecks <;> first | decide | simp at hchecks

private theorem switch_check_ofChecked (turn : Option Bool) (checked : Bool) :
    (check turn).switch (.int 1) (.int 0) (.ofChecked checked) =
      .ofChecked (turn.getD (!checked)) := by
  rw [switch, Value.same_ofChecked]
  cases turn.getD (!checked) <;> rfl

/-- A check button that writes 1 and 0 goes to the state that its methods are named for. -/
theorem switch_ofChecked {method : String} (hmethod : method ∈ tickMethods) (checked : Bool) :
    (of "Checkbutton" method).switch (.int 1) (.int 0) (.ofChecked checked) =
      .ofChecked (ticked method checked) := by
  simp only [tickMethods, List.mem_cons, List.not_mem_nil, or_false] at hmethod
  rcases hmethod with rfl | rfl | rfl | rfl
  · exact switch_check_ofChecked (some true) checked
  · exact switch_check_ofChecked (some false) checked
  · exact switch_check_ofChecked none checked
  · exact switch_check_ofChecked none checked

end Behaviour

namespace Forest

variable {forest : Forest} {handle : VariableId}

section Ticks

variable {button : WidgetId} {record : Record}

/-- A check button writes to its variable which state it goes to. -/
theorem check_of_ticks (hticks : record.Ticks handle) {checked : Bool}
    (hheld : forest.valueIn? handle = some (.ofChecked checked)) (turn : Option Bool) :
    ∃ left, forest.check record turn = (.ok .null, left) ∧
      Writes handle (.ofChecked (turn.getD (!checked))) forest left := by
  obtain ⟨left, hcheck, hwrites⟩ := check_of_held hticks.shared hheld turn
  rw [Record.onValue, Record.offValue, hticks.onvalue, hticks.offvalue, Option.getD_none,
    Option.getD_none, Behaviour.switch_check_ofChecked] at hwrites
  exact ⟨left, hcheck, hwrites⟩

private theorem fireBound_of_ticks (hticks : record.Ticks handle) (forest : Forest) :
    forest.fireBound record = forest := by
  rw [fireBound, hticks.command]
  rfl

/-- A method that writes to the variable does so when it is called, and leaves the button what it
is. -/
theorem invoke_of_ticks (hrecord : forest.record? button = some record)
    (hticks : record.Ticks handle) {checked : Bool}
    (hheld : forest.valueIn? handle = some (.ofChecked checked)) {made : Call}
    (hmethod : made.method ∈ tickMethods) :
    ∃ left, forest.invoke button made = (.ok .null, left) ∧
      left.record? button = some (noteCall made record) ∧
      ∀ other, left.valueIn? other =
        if other = handle then some (.ofChecked (ticked made.method checked))
        else forest.valueIn? other := by
  let noted := (forest.modify button (noteCall made)).log (.invoked button made.method)
  have hnoted : noted.record? button = some (noteCall made record) := by
    simp [noted, record?_modify, hrecord]
  have hclass : forest.classOf button =
      .ok (.inner "Checkbutton" ["select", "deselect", "toggle", "invoke", "flash"]) := by
    rw [classOf, hrecord]
    simp only [hticks.widgetType]
    rfl
  have hcheck (on : Option Bool) (hon : on.getD (!checked) = ticked made.method checked) :
      ∃ left, noted.check (noteCall made record) on = (.ok .null, left) ∧
        left.record? button = some (noteCall made record) ∧
        ∀ other, left.valueIn? other =
          if other = handle then some (.ofChecked (ticked made.method checked))
          else forest.valueIn? other := by
    obtain ⟨left, hleft, hwrites⟩ := noted.check_of_ticks (hticks.noteCall made) hheld on
    rw [hon] at hwrites
    exact ⟨left, hleft, (hwrites.records button).trans hnoted, hwrites.values⟩
  obtain ⟨method, args⟩ := made
  rw [invoke, hclass, hrecord]
  dsimp only
  simp only [tickMethods, List.mem_cons, List.not_mem_nil, or_false] at hmethod
  rcases hmethod with rfl | rfl | rfl | rfl
  · exact hcheck (some true) rfl
  · exact hcheck (some false) rfl
  · exact hcheck none rfl
  · obtain ⟨left, hleft, hkept⟩ := hcheck none rfl
    have hfired : noted.carryOut button (noteCall ⟨"invoke", args⟩ record) .checkAndFire
        ⟨"invoke", args⟩ = (.ok .null, left) := by
      rw [carryOut, hleft]
      dsimp only
      rw [fireBound_of_ticks (hticks.noteCall _)]
    exact ⟨left, hfired, hkept⟩

end Ticks

end Forest

end WidgetTree
