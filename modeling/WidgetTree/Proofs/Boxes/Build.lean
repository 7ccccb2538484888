import WidgetTree.Proofs.Build.Work
import WidgetTree.Proofs.Forest.Fit
import WidgetTree.Proofs.Rows.Tick

namespace WidgetTree

open Forest

/-- At some time while its widget is built, the node tells it this state variable. -/
def NodeSpec.Mentions (spec : NodeSpec) (handle : VariableId) : Prop :=
  Tells spec.constructorArgs handle ∨
    ∃ sequence ∈ spec.sequence, ∃ made ∈ sequence.calls, Tells made.args.keyword handle

/-- The node tells its widget this state variable, and calls a method in its configuration sequence
that a check button has for its state. -/
def NodeSpec.Operates (spec : NodeSpec) (handle : VariableId) : Prop :=
  spec.Mentions handle ∧
    ∃ sequence ∈ spec.sequence, ∃ made ∈ sequence.calls, made.method ∈ tickMethods

/-- The record of the widget of a check box that was just built. The variable that a box gets is
created once the widget is there, and the widget is told it last; so the box names a variable that
nothing else can have named before. -/
structure Record.BoxedFor (spec : NodeSpec) (handle : VariableId) (record : Record) : Prop where
  widgetType : spec.widgetType = some record.widgetType
  names : record.Names handle
  onValue : record.onValue = .int 1
  offValue : record.offValue = .int 0

/-- With a check box that is built, the next widget comes with the next variable. -/
theorem Record.BoxedFor.fitted {spec : NodeSpec} {forest left : Forest} {record : Record}
    (hboxed : record.BoxedFor spec forest.freshVariable) (hsound : forest.Sound)
    (hcount : left.heldValues.length = forest.heldValues.length + 1)
    (hrecord : left.record? forest.next = some record) :
    Fitted forest.next forest.freshVariable forest left where
  fresh := hsound.next_not_live
  created := Nat.lt_succ_self _
  held := hcount.ge
  named := ⟨record, hrecord, hboxed.names⟩

section Settle

variable {core after : Core} {forest left : Forest} {result : Except BuildError Unit}
variable {config : Config} {target : Option WidgetId}

/-- The widget of a core names no state variables while it is settled but those that the node
mentions. -/
theorem Core.settle_shares (hsound : forest.Sound) {widgetType : String}
    (hsettle : (settle config).perform ⟨core.seated forest.next target,
      forest.plant widgetType target core.spec.constructorArgs⟩ = (result, ⟨after, left⟩)) :
    Shares core.spec.Mentions core.spec.Operates forest.next widgetType
        (forest.plant widgetType target core.spec.constructorArgs) left ∧
      (result = .ok () → after = { core.seated forest.next target with state := .built }) := by
  have hwidget : (core.seated forest.next target).widget = some forest.next := rfl
  have hplanted : Shares core.spec.Mentions core.spec.Operates forest.next widgetType
      (forest.plant widgetType target core.spec.constructorArgs)
      (forest.plant widgetType target core.spec.constructorArgs) :=
    .of_plant hsound widgetType target fun _ => .inl
  refine settle_cases ?_ ?_ hplanted hsettle
  · refine attach_preserves config (forall_mem_widget hwidget ?_)
    exact fun strategy args _ hshares => hshares.attach strategy args
  · refine configure_preserves (forall_mem_widget hwidget ?_) (forall_mem_widget hwidget ?_)
    · exact fun name value _ hshares => hshares.setAttribute name value
    · intro sequence hsequence made hmade _ hshares
      refine hshares.invoke ?_ ?_
      · exact fun handle htold => .inr ⟨sequence, hsequence, made, hmade, htold⟩
      · intro hchecks handle hnamed
        exact ⟨hnamed, sequence, hsequence, made, hmade, Behaviour.mem_tickMethods hchecks⟩

/-- All that building a core can do to the widgets and the state variables of a forest: if it
succeeds, the next widget has come, of the type that the node declares. -/
theorem Core.build_augments (hsound : forest.Sound)
    (hbuild : (build config target).perform ⟨core, forest⟩ = (result, ⟨after, left⟩)) :
    Augmented core.spec.Operates forest left ∧
    (result = .ok () → after = { core.seated forest.next target with state := .built } ∧
      left.heldValues.length = forest.heldValues.length ∧
      ∃ record, left.record? forest.next = some record ∧
        core.spec.widgetType = some record.widgetType) := by
  rcases build_cases hbuild with ⟨⟨error, rfl⟩, -, rfl⟩ | ⟨widgetType, htype, hlive, hsettle⟩
  · exact ⟨.refl hsound, nofun⟩
  · obtain ⟨hshares, hbuilt⟩ := settle_shares hsound hsettle
    have hplanted : Augmented core.spec.Operates forest
        (forest.plant widgetType target core.spec.constructorArgs) :=
      .of_plant hsound hlive widgetType _
    refine ⟨hplanted.touches hsound.next_not_live hshares.touches hshares.rewrites, fun hok => ?_⟩
    obtain ⟨record, hrecord, hrecordType, -⟩ := hshares.record
    refine ⟨hbuilt hok, ?_, record, hrecord, by rw [htype, hrecordType]⟩
    rw [hshares.rewrites.count, heldValues_plant]

end Settle

namespace Forest

variable {forest : Forest} {widget : WidgetId} {record : Record}

/-- A widget that is told a state variable names it from then on, and writes 1 and 0 to it, whatever
it was told before. -/
theorem invoke_shareVariable (hrecord : forest.record? widget = some record)
    (handle : VariableId) :
    (∃ error, forest.invoke widget (Element.shareVariable handle) = (.error error, forest)) ∨
    ∃ left later, forest.invoke widget (Element.shareVariable handle) = (.ok .null, left) ∧
      Touches widget forest left ∧ left.heldValues = forest.heldValues ∧
      left.record? widget = some later ∧ later.widgetType = record.widgetType ∧
      later.Names handle ∧ later.onValue = .int 1 ∧ later.offValue = .int 0 := by
  have hinvoke := invoke_spec widget (Element.shareVariable handle) forest
  rcases invoke_cases widget (Element.shareVariable handle) forest with
    ⟨-, hrefused⟩ | ⟨haccepts, -⟩
  · exact .inl hrefused
  · obtain ⟨later, hlater, huncalled, -, hcontents⟩ := invoke_replays hrecord haccepts
    have hoption (name : String) : later.option? name =
        (Table.get? (Element.shareVariable handle).args.keyword.reverse name).or
          (record.option? name) := by
      have hargs := congrArg Record.constructorArgs huncalled
      have hoptions := congrArg Contents.options hcontents
      change later.constructorArgs = record.constructorArgs at hargs
      change later.options = record.options.insertAll _ at hoptions
      rw [Record.option?, hargs, hoptions, Table.get?_insertAll, Option.or_assoc]
      rfl
    have htype := congrArg Record.widgetType huncalled
    refine .inr ⟨_, later, ?_, hinvoke.1, ?_, hlater, htype, hoption "variable", ?_, ?_⟩
    · rw [invoke_of_accepts hrecord haccepts]
      rfl
    · rw [invoke_of_accepts hrecord haccepts]
      rfl
    · rw [Record.onValue, hoption]
      rfl
    · rw [Record.offValue, hoption]
      rfl

end Forest

namespace Element

variable {core built : Core} {role : Role} {after : Element} {config : Config}
variable {target : Option WidgetId} {forest left settled : Forest} {result : Except BuildError Unit}

/-- Once its core is built, a check box creates a variable and tells its widget that variable. -/
theorem left_of_buildCheckbox {widget : WidgetId}
    (hbuild : (buildCheckbox config target).perform ⟨⟨core, role⟩, forest⟩ =
      (result, ⟨after, left⟩))
    (hcore : (Core.build config target).perform ⟨core, forest⟩ = (.ok (), ⟨built, settled⟩))
    (hwidget : built.widget = some widget) :
    let created := settled.createVariable (.int 0)
    let told := created.2.invoke widget (shareVariable created.1)
    left = told.2 ∧ ((∃ value, told.1 = .ok value) ↔ result = .ok ()) ∧
      (result = .ok () → after = ⟨built, .checkbox (some created.1)⟩) := by
  intro created told
  have hbuilt : (onCore (Core.build config target)).perform ⟨⟨core, role⟩, forest⟩ =
      (.ok (), ⟨⟨built, role⟩, settled⟩) := by
    rw [perform_onCore, hcore]
  have hcall : (onCore (Core.thenDo (·.invoke (shareVariable created.1)))).perform
      ⟨⟨built, role⟩, created.2⟩ =
        (told.1.mapError (.ofInvoke built.id (shareVariable created.1).method),
          ⟨⟨built, role⟩, told.2⟩) := by
    rw [perform_onCore, Core.perform_thenDo, Core.perform_invoke hwidget]
  rw [buildCheckbox, Act.perform_bind_ok hbuilt] at hbuild
  change (do
    let _ ← onCore (Core.thenDo (·.invoke (shareVariable created.1)))
    setRole (.checkbox (some created.1))).perform ⟨⟨built, role⟩, created.2⟩ = _ at hbuild
  rw [Act.perform_bind, hcall] at hbuild
  cases houtcome : told.1 with
  | error error =>
    rw [houtcome] at hbuild
    cases hbuild
    exact ⟨rfl, by simp, by simp⟩
  | ok value =>
    rw [houtcome] at hbuild
    cases hbuild
    exact ⟨rfl, ⟨fun _ => rfl, fun _ => ⟨value, rfl⟩⟩, fun _ => rfl⟩

/-- All that building a check box can do to the widgets and the state variables of a forest: those
that were there are as they were, but for the values of variables that its node mentions. If it
succeeds, the next widget has come with the next variable. -/
theorem buildCheckbox_augments (hsound : forest.Sound)
    (hbuild : (buildCheckbox config target).perform ⟨⟨core, role⟩, forest⟩ =
      (result, ⟨after, left⟩)) :
    Augmented core.spec.Operates forest left ∧
    (result = .ok () →
      after = ⟨{ core.seated forest.next target with state := .built },
        .checkbox (some forest.freshVariable)⟩ ∧
      left.heldValues.length = forest.heldValues.length + 1 ∧
      left.valueIn? forest.freshVariable = some (.int 0) ∧
      ∃ record, left.record? forest.next = some record ∧
        record.BoxedFor core.spec forest.freshVariable) := by
  rcases hcore : (Core.build config target).perform ⟨core, forest⟩ with ⟨error | _, built, settled⟩
  · obtain ⟨haugmented, -⟩ := Core.build_augments hsound hcore
    rw [buildCheckbox, Act.perform_bind, perform_onCore, hcore] at hbuild
    cases hbuild
    refine ⟨haugmented, fun hok => ?_⟩
    cases hok
  · obtain ⟨haugmented, hbuilt⟩ := Core.build_augments hsound hcore
    obtain ⟨rfl, hcount, record, hrecord, htype⟩ := hbuilt rfl
    obtain ⟨hleft, hsucceeded, hafter⟩ := left_of_buildCheckbox hbuild hcore rfl
    have hhandle : (settled.createVariable (.int 0)).1 = forest.freshVariable := by
      rw [createVariable, hcount]
      rfl
    have hcreated : Augmented core.spec.Operates forest (settled.createVariable (.int 0)).2 :=
      haugmented.create (.int 0)
    have hseated : (settled.createVariable (.int 0)).2.record? forest.next = some record := hrecord
    rw [hhandle] at hleft hsucceeded hafter
    rcases invoke_shareVariable hseated forest.freshVariable with
      ⟨error, hrefused⟩ |
      ⟨told, later, htold, htouches, hvalues, hlater, hlaterType, hnames, hon, hoff⟩
    · rw [hrefused] at hleft hsucceeded
      obtain rfl := hleft
      refine ⟨hcreated, fun hok => ?_⟩
      obtain ⟨value, hvalue⟩ := hsucceeded.mpr hok
      cases hvalue
    · rw [htold] at hleft hsucceeded
      obtain rfl := hleft
      refine ⟨hcreated.touches hsound.next_not_live htouches (.of_heldValues hvalues),
        fun hok => ⟨hafter hok, ?_, ?_, later, hlater, ?_⟩⟩
      · rw [hvalues, ← hcount]
        exact List.length_append
      · rw [valueIn?, hvalues, ← valueIn?, valueIn?_createVariable, if_pos hhandle.symm]
      · exact ⟨by rw [htype, hlaterType], hnames, hon, hoff⟩

end Element

end WidgetTree
