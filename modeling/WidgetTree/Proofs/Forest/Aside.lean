import WidgetTree.Proofs.Forest.Fit
import WidgetTree.Proofs.Forest.Journal

namespace WidgetTree

/-- The method fires the command that the options of its widget name. -/
def Behaviour.Fires (behaviour : Behaviour) : Prop := behaviour = checkAndFire ∨ behaviour = fire

/-- One method only fires commands. -/
theorem Behaviour.method_of_fires {widgetType method : String}
    (hfires : (of widgetType method).Fires) : method = "invoke" := by
  unfold of Fires at hfires
  split at hfires <;> first | rfl | simp at hfires

/-- The command that the options of the widget name, if any. -/
def Record.command? (record : Record) : Option CommandId :=
  (record.option? "command").bind Value.command?

/-- Records with the same settings name the same command. -/
theorem Record.command?_of_settings {record other : Record}
    (hsettings : other.settings = record.settings) : other.command? = record.command? := by
  rw [command?, command?, option?_of_settings hsettings]

/-- What work may reach beside the widgets: the state variables that it may write, and the commands
that it may fire. -/
structure Reach where
  writes : VariableId → Prop
  fires : CommandId → Prop

namespace Reach

/-- Whatever is within the one reach is within the other. -/
structure Within (narrow wide : Reach) : Prop where
  writes : ∀ handle, narrow.writes handle → wide.writes handle
  fires : ∀ command, narrow.fires command → wide.fires command

/-- What is within reach is within reach. -/
theorem Within.refl (reach : Reach) : reach.Within reach := ⟨fun _ => id, fun _ => id⟩

end Reach

namespace Forest

/-- The journal has gone on, the registered commands are as they were, and only some were fired. -/
structure FiresOnly (fires : CommandId → Prop) (before after : Forest) : Prop where
  history : before.history <+: after.history
  commands : after.commands = before.commands
  fired : ∃ more, after.fired = before.fired ++ more ∧ ∀ command ∈ more, fires command

namespace FiresOnly

variable {fires : CommandId → Prop} {first second third : Forest}

private theorem of_silent (hhistory : first.history <+: second.history)
    (hcommands : second.commands = first.commands) (hfired : second.fired = first.fired) :
    FiresOnly fires first second :=
  ⟨hhistory, hcommands, [], by simp [hfired], by simp⟩

/-- Where nothing was done, nothing was fired. -/
theorem refl (forest : Forest) : FiresOnly fires forest forest := .of_silent List.prefix_rfl rfl rfl

/-- What two pieces of work fire, they fire one after the other. -/
theorem trans (hfirst : FiresOnly fires first second) (hsecond : FiresOnly fires second third) :
    FiresOnly fires first third where
  history := hfirst.history.trans hsecond.history
  commands := hsecond.commands.trans hfirst.commands
  fired := by
    obtain ⟨early, hearly, hearlyFires⟩ := hfirst.fired
    obtain ⟨late, hlate, hlateFires⟩ := hsecond.fired
    refine ⟨early ++ late, by rw [hlate, hearly, List.append_assoc], fun command hcommand => ?_⟩
    exact (List.mem_append.mp hcommand).elim (hearlyFires command) (hlateFires command)

private theorem mono {wider : CommandId → Prop} (hfires : FiresOnly fires first second)
    (hwider : ∀ command, fires command → wider command) : FiresOnly wider first second where
  history := hfires.history
  commands := hfires.commands
  fired := by
    obtain ⟨more, hfired, hmore⟩ := hfires.fired
    exact ⟨more, hfired, fun command hcommand => hwider command (hmore command hcommand)⟩

/-- Where no command may be fired, none was. -/
theorem fired_eq (hfires : FiresOnly fires first second) (hnone : ∀ command, ¬ fires command) :
    second.fired = first.fired := by
  obtain ⟨more, hfired, hmore⟩ := hfires.fired
  have hempty : more = [] :=
    List.eq_nil_iff_forall_not_mem.mpr fun command hcommand =>
      hnone command (hmore command hcommand)
  rw [hfired, hempty, List.append_nil]

end FiresOnly

/-- Besides widgets a forest has state variables, commands and a journal. Of these nothing was taken
away, and there are at most so many new variables. Of the variables that were there before, only
those within reach hold other values, and only commands within reach were fired. -/
structure OnlyAdds (fresh : Nat) (reach : Reach) (before after : Forest) : Prop extends
    FiresOnly reach.fires before after where
  fewest : before.heldValues.length ≤ after.heldValues.length
  most : after.heldValues.length ≤ before.heldValues.length + fresh
  values : ∀ handle, ¬ reach.writes handle → handle.number ≤ before.heldValues.length →
    after.valueIn? handle = before.valueIn? handle

namespace OnlyAdds

variable {fresh more : Nat} {reach wider : Reach} {first second third : Forest}

/-- Work that rewrites only variables within reach, and fires only commands within reach, adds no
variables. -/
theorem of_rewrites (hrewrites : Rewrites reach.writes first second)
    (hfires : FiresOnly reach.fires first second) : OnlyAdds 0 reach first second where
  toFiresOnly := hfires
  fewest := hrewrites.count.ge
  most := hrewrites.count.le
  values handle hother _ := hrewrites.values handle hother

/-- Work on widgets alone, with what the journal says of it. -/
theorem of_history (reach : Reach) (hhistory : first.history <+: second.history)
    (hcommands : second.commands = first.commands) (hfired : second.fired = first.fired)
    (hvalues : second.heldValues = first.heldValues) : OnlyAdds 0 reach first second :=
  of_rewrites (.of_heldValues hvalues) (.of_silent hhistory hcommands hfired)

/-- Where nothing was done, nothing was added. -/
theorem refl (reach : Reach) (forest : Forest) : OnlyAdds 0 reach forest forest :=
  of_history reach List.prefix_rfl rfl rfl rfl

/-- One piece of work after another adds what both add, within the same reach. -/
theorem trans (hfirst : OnlyAdds fresh reach first second)
    (hsecond : OnlyAdds more reach second third) :
    OnlyAdds (fresh + more) reach first third where
  toFiresOnly := hfirst.toFiresOnly.trans hsecond.toFiresOnly
  fewest := hfirst.fewest.trans hsecond.fewest
  most := by
    have := hfirst.most
    have := hsecond.most
    omega
  values handle hother hold := by
    rw [hsecond.values handle hother (hold.trans hfirst.fewest), hfirst.values handle hother hold]

/-- What adds no variables can go on from whatever was added before. -/
theorem step (hfirst : OnlyAdds fresh reach first second)
    (hsecond : OnlyAdds 0 reach second third) : OnlyAdds fresh reach first third :=
  hfirst.trans hsecond

/-- What adds few variables within a narrow reach adds no more within a wider one. -/
theorem mono (hadds : OnlyAdds fresh reach first second) (hfresh : fresh ≤ more)
    (hwithin : reach.Within wider) : OnlyAdds more wider first second where
  toFiresOnly := hadds.toFiresOnly.mono hwithin.fires
  fewest := hadds.fewest
  most := hadds.most.trans (Nat.add_le_add_left hfresh _)
  values handle hother := hadds.values handle (mt (hwithin.writes handle) hother)

end OnlyAdds

section Widgets

variable (forest : Forest) (reach : Reach)

private theorem modify_log_onlyAdds (widget : WidgetId) (change : Record → Record) (event : Event) :
    OnlyAdds 0 reach forest ((forest.modify widget change).log event) :=
  .of_history reach (List.prefix_append _ _) rfl rfl rfl

private theorem adopt_beside (parent : Option WidgetId) (widget : WidgetId) :
    (forest.adopt parent widget).commands = forest.commands ∧
      (forest.adopt parent widget).fired = forest.fired := by
  cases parent <;> exact ⟨rfl, rfl⟩

private theorem occupy_beside (widget : WidgetId) (record : Record) :
    (forest.occupy widget record).commands = forest.commands ∧
      (forest.occupy widget record).fired = forest.fired := by
  unfold occupy
  split <;> exact ⟨rfl, rfl⟩

/-- Planting a widget leaves the commands. -/
theorem plant_beside (widgetType : String) (parent : Option WidgetId) (args : Fields Value) :
    (forest.plant widgetType parent args).commands = forest.commands ∧
      (forest.plant widgetType parent args).fired = forest.fired := by
  obtain ⟨hcommands, hfired⟩ :=
    forest.counted.occupy_beside forest.next (newRecord widgetType parent args)
  exact ⟨(adopt_beside _ parent forest.next).1.trans hcommands,
    (adopt_beside _ parent forest.next).2.trans hfired⟩

/-- Attaching a widget reaches nothing beside the widgets. -/
theorem attach_onlyAdds (widget : WidgetId) (strategy : String) (args : Fields Value) :
    OnlyAdds 0 reach forest (forest.attach widget strategy args).2 := by
  rcases attach_cases widget strategy args forest with ⟨error, hattach⟩ | hattach
  · rw [hattach]
    exact .refl reach forest
  · rw [hattach]
    exact modify_log_onlyAdds forest reach widget _ _

/-- Assigning an attribute reaches nothing beside the widgets. -/
theorem setAttribute_onlyAdds (widget : WidgetId) (name : String) (value : Value) :
    OnlyAdds 0 reach forest (forest.setAttribute widget name value).2 := by
  rcases setAttribute_cases widget name value forest with ⟨error, hassign⟩ | hassign
  · rw [hassign]
    exact .refl reach forest
  · rw [hassign]
    exact modify_log_onlyAdds forest reach widget _ _

end Widgets

section Calls

variable {forest : Forest} {widget : WidgetId} {record : Record} {fires : CommandId → Prop}
variable {reach : Reach}

/-- Checking a button fires nothing. -/
theorem check_firesOnly (forest : Forest) (record : Record) (turn : Option Bool) :
    FiresOnly fires forest (forest.check record turn).2 := by
  unfold check
  split
  · exact .refl forest
  · split
    · exact .refl forest
    · unfold writeVariable
      split <;> exact .of_silent List.prefix_rfl rfl rfl

/-- What fires is the command that the options name, if it was registered. -/
theorem fired_fireBound (forest : Forest) (record : Record) :
    (forest.fireBound record).fired =
      forest.fired ++ (record.command?.filter forest.hasCommand).toList := by
  rw [fireBound, Record.command?]
  cases (record.option? "command").bind Value.command? with
  | none => simp
  | some handle =>
    by_cases hregistered : forest.hasCommand handle = true <;>
      simp [fireCommand, Option.filter, hregistered]

private theorem fireBound_firesOnly (forest : Forest) (record : Record)
    (hfires : ∀ command, record.command? = some command → fires command) :
    FiresOnly fires forest (forest.fireBound record) := by
  have hbeside : forest.history <+: (forest.fireBound record).history ∧
      (forest.fireBound record).commands = forest.commands := by
    unfold fireBound
    split
    · exact ⟨List.prefix_rfl, rfl⟩
    · unfold fireCommand
      split <;> exact ⟨List.prefix_rfl, rfl⟩
  refine ⟨hbeside.1, hbeside.2, _, fired_fireBound forest record, fun command hcommand => ?_⟩
  exact hfires command (Option.eq_some_of_filter_eq_some (Option.mem_toList.mp hcommand))

/-- Carrying out a call fires at most the command that the widget names, and only if the method is
one that does. -/
theorem carryOut_firesOnly (forest : Forest) (widget : WidgetId) (record : Record)
    (behaviour : Behaviour) (call : Call)
    (hfires : behaviour.Fires → ∀ command, record.command? = some command → fires command) :
    FiresOnly fires forest (forest.carryOut widget record behaviour call).2 := by
  have hlocally (behaviour : Behaviour) :
      FiresOnly fires forest (forest.performLocally widget record behaviour call).2 := by
    unfold performLocally
    split <;> exact .of_silent List.prefix_rfl rfl rfl
  cases behaviour with
  | check turn => exact check_firesOnly forest record turn
  | checkAndFire =>
    have hcheck : FiresOnly fires forest (forest.check record none).2 :=
      check_firesOnly forest record none
    rw [carryOut]
    split
    · next heq =>
      rw [heq] at hcheck
      exact hcheck
    · next heq =>
      rw [heq] at hcheck
      exact hcheck.trans (fireBound_firesOnly _ record (hfires (.inl rfl)))
  | fire => exact fireBound_firesOnly forest record (hfires (.inr rfl))
  | addTab =>
    rw [carryOut]
    split
    · exact .refl forest
    · exact hlocally .addTab
  | _ => exact hlocally _

/-- A call, refused or not, reaches no more than the state variable and the command that the options
of its widget name, and these only if its method is one for them. -/
theorem invoke_onlyAdds (hrecord : forest.record? widget = some record) (call : Call)
    (hwrites : (Behaviour.of record.widgetType call.method).Checks →
      ∀ handle, record.Names handle → reach.writes handle)
    (hfires : (Behaviour.of record.widgetType call.method).Fires →
      ∀ command, record.command? = some command → reach.fires command) :
    OnlyAdds 0 reach forest (forest.invoke widget call).2 := by
  have hrewrites : Rewrites reach.writes forest (forest.invoke widget call).2 :=
    (invoke_rewrites hrecord call).mono fun handle ⟨hchecks, hnames⟩ =>
      hwrites hchecks handle hnames
  rcases invoke_cases widget call forest with ⟨-, error, hinvoke⟩ | ⟨haccepts, -⟩
  · rw [hinvoke]
    exact .refl reach forest
  · have hnoted : FiresOnly reach.fires forest (forest.noted widget call) :=
      .of_silent (List.prefix_append _ _) rfl rfl
    have hcarried : FiresOnly reach.fires (forest.noted widget call) _ :=
      carryOut_firesOnly (forest.noted widget call) widget (noteCall call record)
        (Behaviour.of record.widgetType call.method) call hfires
    rw [invoke_of_accepts hrecord haccepts] at hrewrites ⊢
    exact .of_rewrites hrewrites (hnoted.trans hcarried)

end Calls

end Forest

end WidgetTree
