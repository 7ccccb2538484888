import WidgetTree.Proofs.Forest.Switch

namespace WidgetTree

/-- A state variable is among what is told under the name of the option for it. An option names a
variable only because the constructor or a call was told so. -/
def Tells (told : Fields Value) (handle : VariableId) : Prop :=
  ("variable", .stateVariable handle) ∈ told

/-- A call gives an option that is none of a window's own at most a value that it is told for it. -/
theorem Contents.option_after (widgetClass : String) (contents : Contents) (call : Call)
    {name : String} (htitle : name ≠ "title") (hgeometry : name ≠ "geometry") :
    (contents.after widgetClass call).options.get? name = contents.options.get? name ∨
    ∃ value, (name, value) ∈ call.args.keyword ∧
      (contents.after widgetClass call).options.get? name = some value := by
  have htold (given : Fields Value) :
      (contents.options.insertAll given).get? name = contents.options.get? name ∨
      ∃ value, (name, value) ∈ given ∧
        (contents.options.insertAll given).get? name = some value := by
    rw [Table.get?_insertAll]
    cases hget : Table.get? given.reverse name with
    | none => exact .inl rfl
    | some value => exact .inr ⟨value, List.mem_reverse.mp (Table.mem_of_get? hget), rfl⟩
  have hwindow {other : String} (hother : name ≠ other) (value : Value) :
      (contents.options.insertAll [(other, value)]).get? name = contents.options.get? name := by
    rcases htold [(other, value)] with hsame | ⟨_, hmem, -⟩
    · exact hsame
    · exact absurd (congrArg Prod.fst (List.mem_singleton.mp hmem)) hother
  unfold after
  split
  · exact htold _
  · exact htold _
  · exact .inl (hwindow htitle _)
  · exact .inl (hwindow hgeometry _)
  · exact .inl (hwindow htitle _)
  · exact .inl (hwindow hgeometry _)
  all_goals exact .inl rfl

namespace Record

variable {record later : Record} {call : Call} {handle : VariableId}

/-- After a call an option counts as before, or as the call was told. -/
theorem option?_of_replay (huncalled : later.uncalled = record.uncalled)
    (hcontents : later.contents = record.contents.after record.widgetType call) {name : String}
    (htitle : name ≠ "title") (hgeometry : name ≠ "geometry") :
    later.option? name = record.option? name ∨
      ∃ value, (name, value) ∈ call.args.keyword ∧ later.option? name = some value := by
  have hargs : later.uncalled.constructorArgs = record.uncalled.constructorArgs := by rw [huncalled]
  change later.constructorArgs = record.constructorArgs at hargs
  have hoptions : later.options = (record.contents.after record.widgetType call).options :=
    congrArg Contents.options hcontents
  rw [option?, hargs, hoptions]
  rcases Contents.option_after record.widgetType record.contents call htitle hgeometry with
    hsame | ⟨value, htold, hvalue⟩
  · rw [hsame]
    exact .inl rfl
  · rw [hvalue]
    exact .inr ⟨value, htold, rfl⟩

/-- After a call the options name the variable that they named before, or one that the call was
told. -/
theorem names_of_replay (huncalled : later.uncalled = record.uncalled)
    (hcontents : later.contents = record.contents.after record.widgetType call)
    (hnames : later.Names handle) : record.Names handle ∨ Tells call.args.keyword handle := by
  have hvariable : "variable" ≠ "title" ∧ "variable" ≠ "geometry" := by decide
  rcases option?_of_replay huncalled hcontents hvariable.1 hvariable.2 with
    hsame | ⟨value, htold, hvalue⟩
  · exact .inl (hsame.symm.trans hnames)
  · obtain rfl := Option.some.inj (hvalue.symm.trans hnames)
    exact .inr htold

end Record

namespace Forest

/-- Between two forests at most the values of some state variables have changed. -/
structure Rewrites (reached : VariableId → Prop) (before after : Forest) : Prop where
  count : after.heldValues.length = before.heldValues.length
  values : ∀ handle, ¬ reached handle → after.valueIn? handle = before.valueIn? handle

namespace Rewrites

variable {reached wider : VariableId → Prop} {first second third : Forest}

/-- Where all variables hold what they held, nothing was rewritten. -/
theorem of_heldValues (hvalues : second.heldValues = first.heldValues) :
    Rewrites reached first second :=
  ⟨congrArg List.length hvalues, fun _ _ => by rw [valueIn?, valueIn?, hvalues]⟩

private theorem trans (hfirst : Rewrites reached first second)
    (hsecond : Rewrites reached second third) : Rewrites reached first third where
  count := hsecond.count.trans hfirst.count
  values handle hother := (hsecond.values handle hother).trans (hfirst.values handle hother)

/-- What rewrites few variables rewrites no more than more of them. -/
theorem mono (hrewrites : Rewrites reached first second)
    (hwider : ∀ handle, reached handle → wider handle) : Rewrites wider first second where
  count := hrewrites.count
  values handle hother := hrewrites.values handle (mt (hwider handle) hother)

private theorem of_writes {handle : VariableId} {value : Value}
    (hwrites : Writes handle value first second)
    (hreached : reached handle) : Rewrites reached first second where
  count := hwrites.count
  values other hother := by
    rw [hwrites.values, if_neg]
    rintro rfl
    exact hother hreached

end Rewrites

section Calls

variable {forest : Forest} {widget : WidgetId} {record : Record}

private theorem check_rewrites (forest : Forest) (record : Record) (turn : Option Bool) :
    Rewrites record.Names forest (forest.check record turn).2 := by
  cases hnamed : (record.option? "variable").bind Value.stateVariable? with
  | none =>
    unfold check
    rw [hnamed]
    exact .of_heldValues rfl
  | some handle =>
    obtain ⟨value, hvalue, hhandle⟩ := Option.bind_eq_some_iff.mp hnamed
    cases value <;> cases hhandle
    cases hheld : forest.valueIn? handle with
    | none =>
      unfold check
      rw [hnamed]
      simp only [hheld]
      exact .of_heldValues rfl
    | some current =>
      obtain ⟨left, hcheck, hwrites⟩ := check_of_held hvalue hheld turn
      rw [hcheck]
      exact .of_writes hwrites hvalue

/-- Carrying out a call writes a state variable only if the method is one that does, and then the
one that the widget names. -/
theorem carryOut_rewrites (forest : Forest) (widget : WidgetId) (record : Record)
    (behaviour : Behaviour) (call : Call) :
    Rewrites (fun handle => behaviour.Checks ∧ record.Names handle) forest
      (forest.carryOut widget record behaviour call).2 := by
  have hlocally (behaviour : Behaviour) (reached : VariableId → Prop) :
      Rewrites reached forest (forest.performLocally widget record behaviour call).2 := by
    unfold performLocally
    split <;> exact .of_heldValues rfl
  cases behaviour with
  | check turn =>
    exact (check_rewrites forest record turn).mono fun _ hnames => ⟨.inl ⟨turn, rfl⟩, hnames⟩
  | checkAndFire =>
    have hcheck := (check_rewrites forest record none).mono
      fun _ hnames => And.intro (Or.inr rfl : Behaviour.checkAndFire.Checks) hnames
    rw [carryOut]
    split
    · next heq =>
      rw [heq] at hcheck
      exact hcheck
    · next heq =>
      rw [heq] at hcheck
      exact hcheck.trans (.of_heldValues (fireBound_unswitched widget _ record).heldValues)
  | fire => exact .of_heldValues (fireBound_unswitched widget forest record).heldValues
  | addTab =>
    rw [carryOut]
    split
    · exact .of_heldValues rfl
    · exact hlocally .addTab _
  | _ => exact hlocally _ _

/-- A call rewrites at most the variable that the options of its widget name, and only if its method
is one that does. -/
theorem invoke_rewrites (hrecord : forest.record? widget = some record) (call : Call) :
    Rewrites
      (fun handle => (Behaviour.of record.widgetType call.method).Checks ∧ record.Names handle)
      forest (forest.invoke widget call).2 := by
  rcases invoke_cases widget call forest with ⟨-, error, hinvoke⟩ | ⟨haccepts, -⟩
  · rw [hinvoke]
    exact .of_heldValues rfl
  · have hnoted : Rewrites
        (fun handle => (Behaviour.of record.widgetType call.method).Checks ∧ record.Names handle)
        forest (forest.noted widget call) := .of_heldValues rfl
    have hcarried := carryOut_rewrites (forest.noted widget call) widget (noteCall call record)
      (Behaviour.of record.widgetType call.method) call
    rw [invoke_of_accepts hrecord haccepts]
    exact hnoted.trans hcarried

/-- A call leaves its widget of its type, and names no variable that was neither named before nor
told. -/
theorem invoke_names (hrecord : forest.record? widget = some record) (call : Call) : ∃ later,
    (forest.invoke widget call).2.record? widget = some later ∧
      later.widgetType = record.widgetType ∧
      ∀ handle, later.Names handle → record.Names handle ∨ Tells call.args.keyword handle := by
  rcases invoke_cases widget call forest with ⟨-, error, hinvoke⟩ | ⟨haccepts, -⟩
  · rw [hinvoke]
    exact ⟨record, hrecord, rfl, fun _ => .inl⟩
  · obtain ⟨later, hlater, huncalled, -, hcontents⟩ := invoke_replays hrecord haccepts
    have htype := congrArg Record.widgetType huncalled
    exact ⟨later, hlater, htype,
      fun _ hnames => Record.names_of_replay huncalled hcontents hnames⟩

end Calls

/-- Work on a widget of this type, in the course of which its options name at most some state
variables, and calls reach at most some; the values of all others are as they were. -/
structure Shares (named reached : VariableId → Prop) (widget : WidgetId) (widgetType : String)
    (before after : Forest) : Prop where
  touches : Touches widget before after
  rewrites : Rewrites reached before after
  record : ∃ record, after.record? widget = some record ∧ record.widgetType = widgetType ∧
    ∀ handle, record.Names handle → named handle

namespace Shares

variable {named reached : VariableId → Prop} {widget : WidgetId} {widgetType : String}
  {base forest : Forest}

/-- A widget that was just planted names no variable but one that its constructor was told. -/
theorem of_plant (hsound : forest.Sound) (widgetType : String) (target : Option WidgetId)
    {args : Fields Value} (hargs : ∀ handle, Tells args handle → named handle) :
    Shares named reached forest.next widgetType (forest.plant widgetType target args)
      (forest.plant widgetType target args) where
  touches := .refl forest.next _
  rewrites := .of_heldValues rfl
  record := by
    refine ⟨newRecord widgetType target args, ?_, rfl, fun handle hnames => ?_⟩
    · rw [record?_plant widgetType target args hsound, if_pos rfl]
    · exact hargs handle (Table.mem_of_get? hnames)

variable (hshares : Shares named reached widget widgetType base forest)
include hshares

private theorem unswitched {left : Forest} (hunswitched : Unswitched widget forest left) :
    Shares named reached widget widgetType base left where
  touches := hshares.touches.trans hunswitched.touches
  rewrites := hshares.rewrites.trans (.of_heldValues hunswitched.heldValues)
  record := by
    obtain ⟨record, hrecord, htype, hnames⟩ := hshares.record
    obtain ⟨later, hlater, hsame⟩ := exists_settings (hunswitched.settings widget) hrecord
    refine ⟨later, hlater, (Record.widgetType_of_settings hsame).trans htype, ?_⟩
    intro handle hlaterNames
    exact hnames handle (hlaterNames.of_settings hsame.symm)

/-- Attaching the widget leaves the variables and what names them. -/
theorem attach (strategy : String) (args : Fields Value) :
    Shares named reached widget widgetType base (forest.attach widget strategy args).2 := by
  obtain ⟨record, hrecord, -⟩ := hshares.record
  rcases attach_cases widget strategy args forest with ⟨error, hattach⟩ | hattach
  · rw [hattach]
    exact hshares
  · rw [hattach]
    exact hshares.unswitched ((Unswitched.of_modify _ hrecord rfl rfl).log _)

/-- Assigning an attribute leaves the variables and what names them. -/
theorem setAttribute (name : String) (value : Value) :
    Shares named reached widget widgetType base (forest.setAttribute widget name value).2 := by
  obtain ⟨record, hrecord, -⟩ := hshares.record
  rcases setAttribute_cases widget name value forest with ⟨error, hassign⟩ | hassign
  · rw [hassign]
    exact hshares
  · rw [hassign]
    exact hshares.unswitched ((Unswitched.of_modify _ hrecord rfl rfl).log _)

/-- A call may tell the widget variables that count as named, and write them if they count as
reached. -/
theorem invoke {call : Call} (htells : ∀ handle, Tells call.args.keyword handle → named handle)
    (hchecks : (Behaviour.of widgetType call.method).Checks →
      ∀ handle, named handle → reached handle) :
    Shares named reached widget widgetType base (forest.invoke widget call).2 := by
  obtain ⟨record, hrecord, rfl, hnames⟩ := hshares.record
  refine ⟨hshares.touches.trans (invoke_spec widget call forest).1, ?_, ?_⟩
  · refine hshares.rewrites.trans ((invoke_rewrites hrecord call).mono ?_)
    exact fun handle ⟨hcheck, hnamed⟩ => hchecks hcheck handle (hnames handle hnamed)
  · obtain ⟨later, hlater, hsame, hlaterNames⟩ := invoke_names hrecord call
    refine ⟨later, hlater, hsame, fun handle hnamed => ?_⟩
    rcases hlaterNames handle hnamed with hbefore | htold
    · exact hnames handle hbefore
    · exact htells handle htold

end Shares

/-- The state variable that is created next. -/
def freshVariable (forest : Forest) : VariableId := ⟨forest.heldValues.length + 1⟩

/-- Widgets and state variables may have come to a forest. The widgets that were there are as they
were, and so are the values of the variables but for some. -/
structure Augmented (reached : VariableId → Prop) (before after : Forest) : Prop where
  sound : after.Sound
  count : before.heldValues.length ≤ after.heldValues.length
  records : ∀ widget ∈ before.live, after.record? widget = before.record? widget
  values : ∀ handle, ¬ reached handle → handle.number ≤ before.heldValues.length →
    after.valueIn? handle = before.valueIn? handle

namespace Augmented

variable {reached : VariableId → Prop} {base forest left : Forest}

/-- A forest is augmented by nothing from itself. -/
theorem refl (hsound : forest.Sound) : Augmented reached forest forest :=
  ⟨hsound, Nat.le_refl _, fun _ _ => rfl, fun _ _ _ => rfl⟩

/-- A forest is augmented by planting a widget. -/
theorem of_plant (hsound : forest.Sound) {target : Option WidgetId}
    (hlive : ∀ parent ∈ target, parent ∈ forest.live) (widgetType : String) (args : Fields Value) :
    Augmented reached forest (forest.plant widgetType target args) where
  sound := hsound.plant widgetType target args hlive
  count := by rw [heldValues_plant]
  records widget hwidget := by
    rw [record?_plant widgetType target args hsound, if_neg]
    rintro rfl
    exact hsound.next_not_live hwidget
  values _ _ _ := by rw [valueIn?, valueIn?, heldValues_plant]

variable (haugmented : Augmented reached base forest)
include haugmented

/-- An augmented forest stays one when a state variable is created. -/
theorem create (value : Value) : Augmented reached base (forest.createVariable value).2 where
  sound := by
    have htouches : Touches forest.next forest (forest.createVariable value).2 :=
      .of_slots forest.next rfl rfl rfl rfl rfl
    exact htouches.sound haugmented.sound
  count := by
    rw [createVariable, List.length_append]
    exact Nat.le_add_right_of_le haugmented.count
  records := haugmented.records
  values handle hother hold := by
    rw [valueIn?_createVariable, if_neg, haugmented.values handle hother hold]
    rintro rfl
    have hbeyond : forest.heldValues.length + 1 ≤ base.heldValues.length := hold
    have hcount := haugmented.count
    omega

/-- Work on a widget that has come does nothing to those that were there. -/
theorem touches {widget : WidgetId} (hfresh : widget ∉ base.live)
    (htouches : Touches widget forest left) (hrewrites : Rewrites reached forest left) :
    Augmented reached base left where
  sound := htouches.sound haugmented.sound
  count := by
    rw [hrewrites.count]
    exact haugmented.count
  records other hlive := by
    rw [htouches.others, haugmented.records other hlive]
    rintro rfl
    exact hfresh hlive
  values handle hother hold :=
    (hrewrites.values handle hother).trans (haugmented.values handle hother hold)

end Augmented

/-- A widget has come to a forest, with a state variable that its options name. -/
structure Fitted (widget : WidgetId) (handle : VariableId) (before after : Forest) : Prop where
  fresh : widget ∉ before.live
  created : before.heldValues.length < handle.number
  held : handle.number ≤ after.heldValues.length
  named : ∃ record, after.record? widget = some record ∧ record.Names handle

end Forest

end WidgetTree
