import WidgetTree.Proofs.Boxes.Build
import WidgetTree.Proofs.Forest.Aside

namespace WidgetTree

open Forest

/-- At some time while its widget is built, the node tells it this command. -/
def NodeSpec.Binds (spec : NodeSpec) (command : CommandId) : Prop :=
  ("command", .command command) ∈ spec.constructorArgs ∨
    ∃ sequence ∈ spec.sequence, ∃ made ∈ sequence.calls,
      ("command", .command command) ∈ made.args.keyword

/-- The node tells its widget this command, and calls the method that fires it in its configuration
sequence. -/
def NodeSpec.Fires (spec : NodeSpec) (command : CommandId) : Prop :=
  spec.Binds command ∧ ∃ sequence ∈ spec.sequence, ∃ made ∈ sequence.calls, made.method = "invoke"

/-- What building the node may reach beside the widgets: the state variables that it tells its
widget and operates, and the commands that it tells its widget and fires. -/
def NodeSpec.reach (spec : NodeSpec) : Reach := ⟨spec.Operates, spec.Fires⟩

/-- After a call the options name the command that they named before, or one that the call was
told. -/
theorem Record.command?_of_replay {record later : Record} {call : Call}
    (huncalled : later.uncalled = record.uncalled)
    (hcontents : later.contents = record.contents.after record.widgetType call)
    {command : CommandId} (hnames : later.command? = some command) :
    record.command? = some command ∨ ("command", .command command) ∈ call.args.keyword := by
  have hname : "command" ≠ "title" ∧ "command" ≠ "geometry" := by decide
  rcases option?_of_replay huncalled hcontents hname.1 hname.2 with hsame | ⟨value, htold, hvalue⟩
  · rw [command?, hsame] at hnames
    exact .inl hnames
  · rw [command?, hvalue] at hnames
    cases value <;> cases hnames
    exact .inr htold

namespace Forest

/-- Work on the widget of a node, whose options name no command but one that the node tells it, and
fire no command but one that the node fires. -/
structure Rings (spec : NodeSpec) (widget : WidgetId) (widgetType : String)
    (before after : Forest) : Prop extends FiresOnly spec.Fires before after where
  record : ∃ record, after.record? widget = some record ∧ record.widgetType = widgetType ∧
    ∀ command, record.command? = some command → spec.Binds command

namespace Rings

variable {spec : NodeSpec} {widget : WidgetId} {widgetType : String} {base forest left : Forest}

/-- A widget that was just planted names the command that its constructor was told. -/
theorem of_plant (hsound : forest.Sound) (target : Option WidgetId) :
    Rings spec forest.next widgetType (forest.plant widgetType target spec.constructorArgs)
      (forest.plant widgetType target spec.constructorArgs) where
  toFiresOnly := .refl _
  record := by
    refine ⟨newRecord widgetType target spec.constructorArgs, ?_, rfl, fun command hnames => ?_⟩
    · rw [record?_plant widgetType target _ hsound, if_pos rfl]
    · obtain ⟨value, hvalue, hcommand⟩ := Option.bind_eq_some_iff.mp hnames
      cases value <;> cases hcommand
      exact .inl (Table.mem_of_get? hvalue)

variable (hrings : Rings spec widget widgetType base forest)
include hrings

/-- What leaves the options of the widget and fires nothing can go on from there. -/
theorem unswitched (hunswitched : Unswitched widget forest left)
    (hfires : FiresOnly spec.Fires forest left) : Rings spec widget widgetType base left where
  toFiresOnly := hrings.toFiresOnly.trans hfires
  record := by
    obtain ⟨record, hrecord, htype, hnames⟩ := hrings.record
    obtain ⟨later, hlater, hsame⟩ := exists_settings (hunswitched.settings widget) hrecord
    refine ⟨later, hlater, (Record.widgetType_of_settings hsame).trans htype, ?_⟩
    intro command hnamed
    exact hnames command ((Record.command?_of_settings hsame).symm.trans hnamed)

private theorem attach (strategy : String) (args : Fields Value) :
    Rings spec widget widgetType base (forest.attach widget strategy args).2 := by
  obtain ⟨record, hrecord, -⟩ := hrings.record
  have hadds := attach_onlyAdds forest spec.reach widget strategy args
  rcases attach_cases widget strategy args forest with ⟨error, hattach⟩ | hattach
  · rw [hattach]
    exact hrings
  · rw [hattach] at hadds ⊢
    exact hrings.unswitched ((Unswitched.of_modify _ hrecord rfl rfl).log _) hadds.toFiresOnly

private theorem setAttribute (name : String) (value : Value) :
    Rings spec widget widgetType base (forest.setAttribute widget name value).2 := by
  obtain ⟨record, hrecord, -⟩ := hrings.record
  have hadds := setAttribute_onlyAdds forest spec.reach widget name value
  rcases setAttribute_cases widget name value forest with ⟨error, hassign⟩ | hassign
  · rw [hassign]
    exact hrings
  · rw [hassign] at hadds ⊢
    exact hrings.unswitched ((Unswitched.of_modify _ hrecord rfl rfl).log _) hadds.toFiresOnly

/-- A call of the configuration sequence tells the widget what the node tells it, and fires what the
node fires. -/
theorem invoke {sequence : ConfigSequence} (hsequence : sequence ∈ spec.sequence) {call : Call}
    (hcall : call ∈ sequence.calls) :
    Rings spec widget widgetType base (forest.invoke widget call).2 := by
  obtain ⟨record, hrecord, rfl, hnames⟩ := hrings.record
  have hadds : OnlyAdds 0 ⟨fun _ => True, spec.Fires⟩ forest (forest.invoke widget call).2 :=
    invoke_onlyAdds hrecord call (fun _ _ _ => trivial) fun hfires command hnamed =>
      ⟨hnames command hnamed, sequence, hsequence, call, hcall, Behaviour.method_of_fires hfires⟩
  refine ⟨hrings.toFiresOnly.trans hadds.toFiresOnly, ?_⟩
  rcases invoke_cases widget call forest with ⟨-, error, hinvoke⟩ | ⟨haccepts, -⟩
  · rw [hinvoke]
    exact ⟨record, hrecord, rfl, hnames⟩
  · obtain ⟨later, hlater, huncalled, -, hcontents⟩ := invoke_replays hrecord haccepts
    have htype := congrArg Record.widgetType huncalled
    refine ⟨later, hlater, htype, fun command hnamed => ?_⟩
    rcases Record.command?_of_replay huncalled hcontents hnamed with hbefore | htold
    · exact hnames command hbefore
    · exact .inr ⟨sequence, hsequence, call, hcall, htold⟩

end Rings

end Forest

namespace Core

variable {core after : Core} {forest left : Forest} {result : Except BuildError Unit}
variable {config : Config} {target : Option WidgetId}

end Core

end WidgetTree
