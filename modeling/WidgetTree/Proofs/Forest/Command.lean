import WidgetTree.Proofs.Forest.Aside
import WidgetTree.Proofs.Forest.Fit

namespace WidgetTree

namespace Forest

/-- The state variable was created. -/
def Created (forest : Forest) (handle : VariableId) : Prop :=
  0 < handle.number ∧ handle.number ≤ forest.heldValues.length

private theorem Created.mono {forest left : Forest} {handle : VariableId}
    (hcreated : forest.Created handle)
    (hcount : forest.heldValues.length ≤ left.heldValues.length) : left.Created handle :=
  ⟨hcreated.1, hcreated.2.trans hcount⟩

/-- A live widget of this type, whose options name this command, or none, and no state variable but
one that was created. -/
def Bears (forest : Forest) (widget : WidgetId) (widgetType : String)
    (command : Option CommandId) : Prop :=
  ∃ record, forest.record? widget = some record ∧ record.widgetType = widgetType ∧
    record.command? = command ∧ ∀ handle, record.Names handle → forest.Created handle

/-- No command is registered or fired, no state variable is lost, and the records of some widgets
are as they were. -/
structure Hushed (spared : WidgetId → Prop) (before after : Forest) : Prop where
  sound : after.Sound
  commands : after.commands = before.commands
  fired : after.fired = before.fired
  count : before.heldValues.length ≤ after.heldValues.length
  records : ∀ widget, spared widget → after.record? widget = before.record? widget

/-- Work on one widget that leaves it with this command, or with none. -/
structure Rewires (widget : WidgetId) (widgetType : String) (command : Option CommandId)
    (before after : Forest) : Prop where
  touches : Touches widget before after
  count : before.heldValues.length ≤ after.heldValues.length
  bears : after.Bears widget widgetType command

/-- Work on a widget that is without a command, before and after. -/
structure Idles (widget : WidgetId) (widgetType : String) (before after : Forest) : Prop extends
    Rewires widget widgetType none before after where
  commands : after.commands = before.commands
  fired : after.fired = before.fired

/-- A widget is told no command, and no state variable but one that was created. -/
def Harmless (forest : Forest) (told : Fields Value) : Prop :=
  ∀ entry ∈ told, entry.2.command? = none ∧
    ∀ handle, entry.2 = .stateVariable handle → forest.Created handle

variable {forest left : Forest} {widget : WidgetId} {widgetType : String}
variable {command : Option CommandId} {record : Record}

namespace Bears

/-- A widget that bears a command is live. -/
theorem mem_live (hbears : forest.Bears widget widgetType command) : widget ∈ forest.live := by
  obtain ⟨record, hrecord, -⟩ := hbears
  exact mem_live_iff.mpr ⟨record, hrecord⟩

/-- What leaves the options of a widget leaves it with its command. -/
theorem of_settings (hbears : forest.Bears widget widgetType command)
    (hsettings : (left.record? widget).map Record.settings =
      (forest.record? widget).map Record.settings)
    (hcount : forest.heldValues.length ≤ left.heldValues.length) :
    left.Bears widget widgetType command := by
  obtain ⟨record, hrecord, htype, hcommand, hnames⟩ := hbears
  obtain ⟨later, hlater, hsame⟩ := exists_settings hsettings hrecord
  refine ⟨later, hlater, ?_, ?_, ?_⟩
  · rw [Record.widgetType_of_settings hsame, htype]
  · rw [Record.command?_of_settings hsame, hcommand]
  · intro handle hlaterNames
    exact (hnames handle (hlaterNames.of_settings hsame.symm)).mono hcount

/-- A widget bears its command as long as its record is the same. -/
theorem of_record (hbears : forest.Bears widget widgetType command)
    (hrecord : left.record? widget = forest.record? widget)
    (hcount : forest.heldValues.length ≤ left.heldValues.length) :
    left.Bears widget widgetType command :=
  hbears.of_settings (by rw [hrecord]) hcount

end Bears

private theorem commands_invoke (hrecord : forest.record? widget = some record) (call : Call) :
    (forest.invoke widget call).2.commands = forest.commands := by
  have hadds : OnlyAdds 0 ⟨fun _ => True, fun _ => True⟩ forest (forest.invoke widget call).2 :=
    invoke_onlyAdds hrecord call (fun _ _ _ => trivial) fun _ _ _ => trivial
  exact hadds.commands

/-- A widget without a command fires nothing, whatever is called. -/
theorem fired_invoke (hrecord : forest.record? widget = some record)
    (hcommand : record.command? = none) (call : Call) :
    (forest.invoke widget call).2.fired = forest.fired := by
  have hadds : OnlyAdds 0 ⟨fun _ => True, fun _ => False⟩ forest (forest.invoke widget call).2 :=
    invoke_onlyAdds hrecord call (fun _ _ _ => trivial) fun _ command hnamed => by
      cases hcommand.symm.trans hnamed
  exact hadds.fired_eq fun _ => id

namespace Idles

private theorem refl (hbears : forest.Bears widget widgetType none) :
    Idles widget widgetType forest forest :=
  ⟨⟨.refl widget forest, Nat.le_refl _, hbears⟩, rfl, rfl⟩

private theorem of_unswitched (hbears : forest.Bears widget widgetType none)
    (hunswitched : Unswitched widget forest left) (hcommands : left.commands = forest.commands)
    (hfired : left.fired = forest.fired) : Idles widget widgetType forest left where
  touches := hunswitched.touches
  commands := hcommands
  fired := hfired
  count := by rw [hunswitched.heldValues]
  bears := hbears.of_settings (hunswitched.settings widget) (by rw [hunswitched.heldValues])

end Idles

section Work

variable (hbears : forest.Bears widget widgetType none)
include hbears

/-- Attaching a widget tells it no command and fires none. -/
theorem attach_idles (strategy : String) (args : Fields Value) :
    Idles widget widgetType forest (forest.attach widget strategy args).2 := by
  obtain ⟨record, hrecord, -⟩ := id hbears
  rcases attach_cases widget strategy args forest with ⟨error, hattach⟩ | hattach
  · rw [hattach]
    exact .refl hbears
  · rw [hattach]
    exact .of_unswitched hbears ((Unswitched.of_modify _ hrecord rfl rfl).log _) rfl rfl

/-- Assigning an attribute tells a widget no command and fires none. -/
theorem setAttribute_idles (name : String) (value : Value) :
    Idles widget widgetType forest (forest.setAttribute widget name value).2 := by
  obtain ⟨record, hrecord, -⟩ := id hbears
  rcases setAttribute_cases widget name value forest with ⟨error, hassign⟩ | hassign
  · rw [hassign]
    exact .refl hbears
  · rw [hassign]
    exact .of_unswitched hbears ((Unswitched.of_modify _ hrecord rfl rfl).log _) rfl rfl

/-- A harmless call of any method leaves its widget without a command. -/
theorem invoke_idles {call : Call} (hharmless : forest.Harmless call.args.keyword) :
    Idles widget widgetType forest (forest.invoke widget call).2 := by
  obtain ⟨record, hrecord, rfl, hcommand, hnames⟩ := id hbears
  rcases invoke_cases widget call forest with ⟨-, error, hinvoke⟩ | ⟨haccepts, -⟩
  · rw [hinvoke]
    exact .refl hbears
  · have hcount := (invoke_rewrites hrecord call).count.ge
    obtain ⟨later, hlater, huncalled, -, hcontents⟩ := invoke_replays hrecord haccepts
    refine ⟨⟨(invoke_spec widget call forest).1, hcount, later, hlater, ?_, ?_, ?_⟩,
      commands_invoke hrecord call, fired_invoke hrecord hcommand call⟩
    · have htype := congrArg Record.widgetType huncalled
      exact htype
    · have hname : "command" ≠ "title" ∧ "command" ≠ "geometry" := by decide
      rcases Record.option?_of_replay huncalled hcontents hname.1 hname.2 with
        hsame | ⟨value, htold, hvalue⟩
      · rw [Record.command?, hsame]
        exact hcommand
      · rw [Record.command?, hvalue]
        exact (hharmless _ htold).1
    · intro handle hlaterNames
      refine Created.mono ?_ hcount
      rcases Record.names_of_replay huncalled hcontents hlaterNames with hold | htold
      · exact hnames handle hold
      · exact (hharmless _ htold).2 handle rfl

end Work

namespace Hushed

variable {spared : WidgetId → Prop} {base : Forest}

/-- A forest where nothing was done is hushed. -/
theorem refl (hsound : forest.Sound) : Hushed spared forest forest :=
  ⟨hsound, rfl, rfl, Nat.le_refl _, fun _ _ => rfl⟩

variable (hhushed : Hushed spared base forest)
include hhushed

/-- Work that idles on a widget that is not spared leaves the forest hushed. -/
theorem idles (hother : ¬ spared widget) (hidles : Idles widget widgetType forest left) :
    Hushed spared base left where
  sound := hidles.touches.sound hhushed.sound
  commands := hidles.commands.trans hhushed.commands
  fired := hidles.fired.trans hhushed.fired
  count := hhushed.count.trans hidles.count
  records other hspared := by
    rw [hidles.touches.others, hhushed.records other hspared]
    rintro rfl
    exact hother hspared

/-- A forest stays hushed when a widget is planted. -/
theorem plant {target : Option WidgetId} (hlive : ∀ parent ∈ target, parent ∈ forest.live)
    (hspared : ∀ other, spared other → other ∈ forest.live) (widgetType : String)
    (args : Fields Value) : Hushed spared base (forest.plant widgetType target args) := by
  obtain ⟨hcommands, hfired⟩ := plant_beside forest widgetType target args
  refine ⟨hhushed.sound.plant widgetType target args hlive, ?_, ?_, ?_, fun other hother => ?_⟩
  · rw [hcommands, hhushed.commands]
  · rw [hfired, hhushed.fired]
  · rw [heldValues_plant]
    exact hhushed.count
  · rw [record?_plant widgetType target args hhushed.sound, if_neg, hhushed.records other hother]
    rintro rfl
    exact hhushed.sound.next_not_live (hspared _ hother)

/-- A forest stays hushed when a state variable is created. -/
theorem create (value : Value) : Hushed spared base (forest.createVariable value).2 where
  sound := by
    have htouches : Touches forest.next forest (forest.createVariable value).2 :=
      .of_slots forest.next rfl rfl rfl rfl rfl
    exact htouches.sound hhushed.sound
  commands := hhushed.commands
  fired := hhushed.fired
  count := hhushed.count.trans (by simp [createVariable])
  records := hhushed.records

end Hushed

/-- A widget that was just planted is without a command, if its constructor was told none. -/
theorem bears_plant (hsound : forest.Sound) (target : Option WidgetId) {args : Fields Value}
    (hharmless : forest.Harmless args) :
    (forest.plant widgetType target args).Bears forest.next widgetType none := by
  refine ⟨newRecord widgetType target args, ?_, rfl, ?_, fun handle hnames => ?_⟩
  · rw [record?_plant widgetType target args hsound, if_pos rfl]
  · rw [Record.command?, Option.bind_eq_none_iff]
    intro value hvalue
    exact (hharmless _ (Table.mem_of_get? hvalue)).1
  · refine Created.mono ((hharmless _ (Table.mem_of_get? hnames)).2 handle rfl) ?_
    rw [heldValues_plant]

/-- The classes of the widgets that fire their commands when they are clicked. -/
def clickClasses : List String := ["Button", "Checkbutton"]

section Click

private theorem accepts_of_clickClass (hrecord : forest.record? widget = some record)
    (hclass : record.widgetType ∈ clickClasses) :
    forest.accepts widget "configure" = true ∧ forest.accepts widget "invoke" = true := by
  rw [clickClasses, List.mem_pair] at hclass
  rcases hclass with htype | htype
  · have haccepts := accepts_of_class hrecord (by rw [htype]; rfl)
    rw [haccepts, haccepts]
    decide
  · have haccepts := accepts_of_class hrecord (by rw [htype]; rfl)
    rw [haccepts, haccepts]
    decide

/-- A widget that is told a command names it from then on, whatever it named before. -/
theorem invoke_command (hbears : forest.Bears widget widgetType command)
    (hclass : widgetType ∈ clickClasses) (handle : CommandId) :
    ∃ left, forest.invoke widget ⟨"configure", ⟨[], [("command", .command handle)]⟩⟩ =
        (.ok .null, left) ∧
      Rewires widget widgetType (some handle) forest left ∧
      left.commands = forest.commands ∧ left.fired = forest.fired := by
  obtain ⟨record, hrecord, rfl, -, hnames⟩ := hbears
  let told : Call := ⟨"configure", ⟨[], [("command", .command handle)]⟩⟩
  have haccepts : forest.accepts widget told.method = true :=
    (accepts_of_clickClass hrecord hclass).1
  have hinvoke : forest.invoke widget told = (.ok .null, (forest.invoke widget told).2) := by
    rw [invoke_of_accepts hrecord haccepts]
    rfl
  have hfired : (forest.invoke widget told).2.fired = forest.fired := by
    rw [invoke_of_accepts hrecord haccepts]
    rfl
  have hcount := (invoke_rewrites hrecord told).count.ge
  obtain ⟨later, hlater, huncalled, -, hcontents⟩ := invoke_replays hrecord haccepts
  have hoptions := congrArg Contents.options hcontents
  change later.options = record.options.insertAll told.args.keyword at hoptions
  refine ⟨_, hinvoke, ⟨(invoke_spec widget told forest).1, hcount, later, hlater, ?_, ?_, ?_⟩,
    commands_invoke hrecord told, hfired⟩
  · have htype := congrArg Record.widgetType huncalled
    exact htype
  · rw [Record.command?, Record.option?, hoptions, Table.get?_insertAll]
    rfl
  · intro shared hshared
    refine Created.mono ?_ hcount
    rcases Record.names_of_replay huncalled hcontents hshared with hold | htold
    · exact hnames shared hold
    · have hname : "variable" = "command" := congrArg Prod.fst (List.mem_singleton.mp htold)
      exact absurd hname (by decide)

/-- A check button that names no variable but one that was created can be checked. -/
theorem check_ok (hnames : ∀ handle, record.Names handle → forest.Created handle)
    (turn : Option Bool) : (forest.check record turn).1 = .ok .null := by
  cases hnamed : (record.option? "variable").bind Value.stateVariable? with
  | none =>
    unfold check
    rw [hnamed]
  | some handle =>
    obtain ⟨value, hvalue, hhandle⟩ := Option.bind_eq_some_iff.mp hnamed
    cases value <;> cases hhandle
    obtain ⟨hpositive, hcount⟩ := hnames handle hvalue
    obtain ⟨current, hheld⟩ := exists_valueIn? hpositive hcount
    obtain ⟨left, hcheck, -⟩ := check_of_held hvalue hheld turn
    rw [hcheck]

/-- What is clicked fires at last. A check button is switched before, and other than that the two
classes do the same. -/
theorem carryOut_click (hclass : record.widgetType ∈ clickClasses)
    (hnames : ∀ handle, record.Names handle → forest.Created handle) (args : Arguments) :
    ∃ switched : Forest,
      forest.carryOut widget record (Behaviour.of record.widgetType "invoke") ⟨"invoke", args⟩ =
        (.ok .null, switched.fireBound record) ∧
      switched.fired = forest.fired ∧ switched.commands = forest.commands ∧
      ∀ other, switched.record? other = forest.record? other := by
  rw [clickClasses, List.mem_pair] at hclass
  rcases hclass with htype | htype
  · refine ⟨forest, ?_, rfl, rfl, fun _ => rfl⟩
    rw [htype]
    rfl
  · have hok := check_ok hnames none
    have hchecked : FiresOnly (fun _ => False) forest (forest.check record none).2 :=
      check_firesOnly forest record none
    have hfired := hchecked.fired_eq fun _ => id
    have hkept := hchecked.commands
    have hrecords := record?_check forest record none
    rcases hcheck : forest.check record none with ⟨result, switched⟩
    rw [hcheck] at hok hfired hkept hrecords
    obtain rfl : result = .ok .null := hok
    refine ⟨switched, ?_, hfired, hkept, hrecords⟩
    rw [htype]
    change forest.carryOut widget record .checkAndFire ⟨"invoke", args⟩ = _
    rw [carryOut, hcheck]

/-- A click succeeds, and fires the command that the widget names, if it was registered, and nothing
else. -/
theorem invoke_click (hbears : forest.Bears widget widgetType command)
    (hclass : widgetType ∈ clickClasses) (args : Arguments) :
    ∃ left, forest.invoke widget ⟨"invoke", args⟩ = (.ok .null, left) ∧
      Rewires widget widgetType command forest left ∧ left.commands = forest.commands ∧
      left.fired = forest.fired ++ (command.filter forest.hasCommand).toList := by
  obtain ⟨record, hrecord, rfl, rfl, hnames⟩ := id hbears
  let click : Call := ⟨"invoke", args⟩
  let noted := forest.noted widget click
  have hunswitched : Unswitched widget forest noted := noted_unswitched hrecord click
  have haccepts : forest.accepts widget click.method = true :=
    (accepts_of_clickClass hrecord hclass).2
  have hcreated : ∀ handle, (noteCall click record).Names handle → noted.Created handle := hnames
  obtain ⟨switched, hswitched, hfired, hcommands, hrecords⟩ :=
    @carryOut_click noted widget (noteCall click record) hclass hcreated args
  have hinvoke : forest.invoke widget click =
      (.ok .null, switched.fireBound (noteCall click record)) := by
    rw [invoke_of_accepts hrecord haccepts]
    exact hswitched
  have htouches := (invoke_spec widget click forest).1
  have hcount := (invoke_rewrites hrecord click).count.ge
  have hkept := commands_invoke hrecord click
  rw [hinvoke] at htouches hcount hkept
  refine ⟨_, hinvoke, ⟨htouches, hcount, hbears.of_settings ?_ hcount⟩, hkept, ?_⟩
  · rw [record?_fireBound, hrecords]
    exact hunswitched.settings widget
  · have hregistered : switched.hasCommand = forest.hasCommand := by
      funext handle
      rw [hasCommand, hasCommand, hcommands]
      rfl
    rw [fired_fireBound, hfired, hregistered]
    rfl

end Click

end Forest

end WidgetTree
