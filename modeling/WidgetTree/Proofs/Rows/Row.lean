import WidgetTree.Proofs.Build.Work
import WidgetTree.Proofs.Forest.Fell
import WidgetTree.Proofs.Forest.Variable

namespace WidgetTree

/-- The node asks for nothing but a widget of this type, packed where it stands. -/
structure NodeSpec.Plain (widgetType : String) (spec : NodeSpec) : Prop where
  widgetType : spec.widgetType = some widgetType
  packed : spec.attachStrategy = some "pack"
  attributes : spec.attributes = []
  sequence : spec.sequence = none

/-- Widgets of the type exist and can be packed. -/
def Packable (widgetType : String) : Prop :=
  ∃ cls, WidgetClass.ofName? widgetType = some cls ∧ cls.supports "pack" = true

namespace Forest

/-- The forest with the widget of a plain node in it. -/
def pack (forest : Forest) (widgetType : String) (parent : WidgetId) (spec : NodeSpec) : Forest :=
  let attachment : Attachment := { strategy := "pack", args := spec.attachArgs }
  ((forest.plant widgetType (some parent) spec.constructorArgs).modify forest.next
    ({ · with attachment := some attachment })).log (.attached forest.next "pack")

/-- The forest with a new state variable, if there is a value for it to hold. -/
def hold (forest : Forest) : Option Value → Forest
  | none => forest
  | some value => (forest.createVariable value).2

/-- The forest after the widget was destroyed, if there is one and it is live. -/
def without (forest : Forest) : Option WidgetId → Forest
  | none => forest
  | some widget => (forest.destroy widget).2

section Pack

variable {forest : Forest} {parent : WidgetId} (widgetType : String) (spec : NodeSpec)

private theorem construct_of_live {outer : Option WidgetId} {widgetType : String}
    (hknown : ∃ cls, WidgetClass.ofName? widgetType = some cls)
    (houter : ∀ widget ∈ outer, widget ∈ forest.live) (args : Fields Value) :
    construct widgetType outer args forest =
      (.ok forest.next, forest.plant widgetType outer args) := by
  obtain ⟨cls, hcls⟩ := hknown
  have hlive : outer.any (!forest.contains ·) = false := by
    cases outer with
    | none => rfl
    | some widget => simp [contains_iff.mpr (houter widget rfl)]
  unfold construct
  rw [if_neg (by simp [hcls]), if_neg (by simp [hlive])]
  rfl

/-- Packing a widget that was planted is work on it. -/
theorem pack_touches (parent : WidgetId) :
    Touches forest.next (forest.plant widgetType (some parent) spec.constructorArgs)
      (forest.pack widgetType parent spec) := by
  refine touches_modify_log _ ?_ _
  intro record
  rfl

/-- A forest stays sound with a packed widget in it. -/
theorem Sound.pack (hsound : forest.Sound) (hparent : parent ∈ forest.live) :
    (forest.pack widgetType parent spec).Sound := by
  have hlive : ∀ outer ∈ some parent, outer ∈ forest.live := by
    rintro outer ⟨⟩
    exact hparent
  exact (pack_touches widgetType spec parent).sound (hsound.plant widgetType _ _ hlive)

@[simp] theorem constructed_pack :
    (forest.pack widgetType parent spec).constructed = forest.constructed + 1 :=
  (pack_touches widgetType spec parent).constructed.trans (constructed_plant _ _ _)

@[simp] theorem heldValues_pack :
    (forest.pack widgetType parent spec).heldValues = forest.heldValues := by
  change (forest.counted.occupy _ _).heldValues = forest.heldValues
  unfold occupy
  split <;> rfl

/-- The packed widget has the record of its construction with the attachment, and others keep
theirs. -/
theorem record?_pack (hsound : forest.Sound) (other : WidgetId) :
    (forest.pack widgetType parent spec).record? other =
      if other = forest.next then
        some { newRecord widgetType (some parent) spec.constructorArgs with
          attachment := some { strategy := "pack", args := spec.attachArgs } }
      else forest.record? other := by
  rw [pack, record?_log, record?_modify, record?_plant _ _ _ hsound]
  by_cases hother : other = forest.next <;> simp [hother]

/-- Live are those from before and the packed widget. -/
theorem mem_live_pack_iff (hsound : forest.Sound) {widget : WidgetId} :
    widget ∈ (forest.pack widgetType parent spec).live ↔
      widget ∈ forest.live ∨ widget = forest.next := by
  rw [(pack_touches widgetType spec parent).live]
  exact mem_live_plant_iff widgetType _ _ hsound

/-- The packed widget is the last one inside its parent. -/
theorem children_pack (hsound : forest.Sound) (other : WidgetId) :
    (forest.pack widgetType parent spec).children other =
      forest.children other ++ if parent = other then [forest.next] else [] := by
  rw [(pack_touches widgetType spec parent).children, children_plant _ _ _ hsound]
  simp only [Option.some.injEq]

/-- Widgets that were there before a packing are there as before, but that the new one is the last
inside its parent. -/
theorem kept_pack (hsound : forest.Sound) {widget : WidgetId} (hlive : widget ∈ forest.live) :
    widget ∈ (forest.pack widgetType parent spec).live ∧
      (forest.pack widgetType parent spec).record? widget = forest.record? widget ∧
      (parent ≠ widget →
        (forest.pack widgetType parent spec).children widget = forest.children widget) := by
  have hold : widget ≠ forest.next := by
    rintro rfl
    exact hsound.next_not_live hlive
  refine ⟨(mem_live_pack_iff widgetType spec hsound).mpr (.inl hlive), ?_, ?_⟩
  · rw [record?_pack widgetType spec hsound, if_neg hold]
  · intro hparent
    rw [children_pack widgetType spec hsound, if_neg hparent, List.append_nil]

/-- The new widget has nothing inside it. -/
theorem children_pack_next (hsound : forest.Sound) (hparent : parent ∈ forest.live) :
    (forest.pack widgetType parent spec).children forest.next = [] := by
  have hold : parent ≠ forest.next := by
    rintro rfl
    exact hsound.next_not_live hparent
  rw [children_pack widgetType spec hsound, if_neg hold, hsound.children_next, List.append_nil]

/-- A widget that was just planted can be packed if widgets of its type can. -/
theorem attach_plant (hsound : forest.Sound) (hpackable : Packable widgetType)
    (parent : WidgetId) :
    attach forest.next "pack" spec.attachArgs
        (forest.plant widgetType (some parent) spec.constructorArgs) =
      (.ok (), forest.pack widgetType parent spec) := by
  obtain ⟨cls, hcls, hsupports⟩ := hpackable
  have hclass : (forest.plant widgetType (some parent) spec.constructorArgs).classOf forest.next =
      .ok cls := by
    rw [classOf, record?_plant _ _ _ hsound, if_pos rfl]
    simp only [newRecord, hcls]
  rw [attach, hclass]
  simp only [hsupports, if_true]
  rfl

end Pack

/-- A state variable more is nothing to the widgets. -/
theorem hold_touches (forest : Forest) (initial : Option Value) (widget : WidgetId) :
    Touches widget forest (forest.hold initial) := by
  cases initial with
  | none => exact .refl widget forest
  | some value => exact .of_slots widget rfl rfl rfl rfl rfl

end Forest

namespace Core

/-- The core of a node whose widget was built inside another. -/
def builtIn (spec : NodeSpec) (parent widget : WidgetId) : Core :=
  { spec, widget := some widget, target := some parent, state := .built }

/-- The core after its widget was released. -/
def released (core : Core) : Core := { core with widget := none, state := .destroyed }

variable {forest : Forest} {parent : WidgetId} {widgetType : String} {spec : NodeSpec}

/-- A node that asks for no attributes and no calls leaves its widget as it is attached. -/
theorem perform_configure_plain (core : Core) {widget : WidgetId}
    (hwidget : core.widget = some widget) (hplain : core.spec.Plain widgetType) (forest : Forest) :
    core.configure.perform forest = (.ok (), forest) := by
  have hassign : core.assignAttributes.perform forest = (.ok (), forest) := by
    rw [assignAttributes, Act.perform_bind_ok (perform_requireWidget hwidget forest),
      hplain.attributes]
    rfl
  rw [configure, Act.perform_bind_ok hassign, applySequence, hplain.sequence]
  rfl

private theorem perform_attach_plain (core : Core) (hwidget : core.widget = some forest.next)
    (hplain : core.spec.Plain widgetType) (hpackable : Packable widgetType) (hsound : forest.Sound)
    (config : Config) (parent : WidgetId) :
    (core.attach config).perform
        (forest.plant widgetType (some parent) core.spec.constructorArgs) =
      (.ok (), forest.pack widgetType parent core.spec) := by
  have hattach := Forest.attach_plant widgetType core.spec hsound hpackable parent
  rw [attach, Act.perform_bind_ok (perform_requireWidget hwidget _), hplain.packed, Option.some_or]
  dsimp only
  rw [Act.perform_ofOperation]
  change ((Forest.attach _ _ _ _).1.mapError _, (Forest.attach _ _ _ _).2) = _
  rw [hattach]
  rfl

/-- A plain node is built inside any live widget. -/
theorem perform_build_of_live (hsound : forest.Sound) (hplain : spec.Plain widgetType)
    (hpackable : Packable widgetType) (hparent : parent ∈ forest.live) (config : Config) :
    (build config (some parent)).perform ⟨.ofSpec spec, forest⟩ =
      (.ok (), ⟨.builtIn spec parent forest.next, forest.pack widgetType parent spec⟩) := by
  have hlive : ∀ outer ∈ some parent, outer ∈ forest.live := by
    rintro outer ⟨⟩
    exact hparent
  have hknown : ∃ cls, WidgetClass.ofName? widgetType = some cls := hpackable.imp fun _ => And.left
  have hoperation : Forest.construct widgetType (some parent) (ofSpec spec).spec.constructorArgs
      forest = (.ok forest.next, forest.plant widgetType (some parent) spec.constructorArgs) :=
    Forest.construct_of_live hknown hlive spec.constructorArgs
  let seated : Core := { spec, widget := some forest.next, target := some parent }
  have hconstruct : (construct widgetType (some parent)).perform ⟨.ofSpec spec, forest⟩ =
      (.ok forest.next,
        ⟨seated, forest.plant widgetType (some parent) spec.constructorArgs⟩) := by
    rw [perform_construct, hoperation]
    rfl
  have hattach := perform_attach_plain seated rfl hplain hpackable hsound config parent
  have hconfigure := perform_configure_plain seated rfl hplain
    (forest.pack widgetType parent spec)
  rw [build, Act.perform_bind_ok (Act.perform_subject _)]
  dsimp only
  rw [show (ofSpec spec).spec.widgetType = some widgetType from hplain.widgetType]
  dsimp only
  rw [buildAs, Act.perform_bind_ok hconstruct, Act.perform_bind, perform_thenDo, hattach]
  dsimp only
  rw [Act.perform_bind, perform_thenDo, hconfigure]
  rfl

/-- Inside a widget that is gone nothing is built. -/
theorem perform_build_of_dead (spec : NodeSpec) (hparent : parent ∉ forest.live)
    (config : Config) :
    ∃ error, (build config (some parent)).perform ⟨.ofSpec spec, forest⟩ =
      (.error error, ⟨.ofSpec spec, forest⟩) := by
  rcases hbuild : (build config (some parent)).perform ⟨.ofSpec spec, forest⟩ with
    ⟨result, after, left⟩
  rcases build_cases hbuild with ⟨⟨error, rfl⟩, rfl, rfl⟩ | ⟨-, -, hlive, -⟩
  · exact ⟨error, rfl⟩
  · exact absurd (hlive parent rfl) hparent

/-- Releasing a widget always succeeds in a forest: one that is gone counts as released. -/
theorem perform_destroy (core : Core) (forest : Forest) :
    destroy.perform ⟨core, forest⟩ = (.ok (), ⟨core.released, forest.without core.widget⟩) := by
  rw [destroy, Act.perform_bind_ok (Act.perform_subject _)]
  cases hwidget : core.widget with
  | none => rfl
  | some widget =>
    rw [Act.perform_bind, Act.perform_inToolkit, Act.perform_mk]
    simp only [Toolkit.destroy, Forest.without]
    cases hrecord : forest.record? widget with
    | none =>
      rw [Forest.destroy, hrecord]
      rfl
    | some record =>
      rw [Forest.destroy_of_record? hrecord]
      rfl

end Core

namespace Forest

/-- The forest after a row was released, its content first and then its container. -/
def withoutRow (forest : Forest) (row : Row) : Forest :=
  (forest.without row.content.widget).without row.container.widget

/-- The row of two widgets, a default container and the content that a strategy came to. -/
def rowIn (parent container content : WidgetId) (spec : RowSpec) (made : RowContent) : Row where
  container := .builtIn spec.container parent container
  content := .builtIn made.node container content
  text := spec.text
  state := made.state

/-- Makes a row inside a widget: a container, then what the strategy comes to, then the content. -/
def makeRow (forest : Forest) (strategy : RowStrategy) (widgetType : String) (parent : WidgetId)
    (spec : RowSpec) : Row × Forest :=
  let housed := forest.pack "Frame" parent spec.container
  let made := (strategy.content spec).perform housed
  (rowIn parent forest.next housed.next spec made.1,
    made.2.pack widgetType forest.next made.1.node)

end Forest

/-- Whatever a script comes to in a toolkit, it yields. -/
theorem Script.yields_perform {σ α : Type} [Toolkit σ] (script : Script α) (toolkit : σ) :
    script.Yields (script.perform toolkit).1 :=
  ⟨σ, inferInstance, toolkit, rfl⟩

namespace RowStrategy

/-- The strategy keeps the default container, and touches the toolkit only to create one state
variable for a row, if it wants one. -/
structure Modest (strategy : RowStrategy) : Prop where
  container : ∀ spec, strategy.container spec = spec.container
  content : ∀ spec, (∃ made, strategy.content spec = .done made) ∨
    ∃ (value : Value) (made : VariableId → RowContent),
      strategy.content spec = .ask (.createVariable value) fun handle => .done (made handle)

/-- A modest strategy leaves the forest as it is, or with one variable more. -/
theorem Modest.perform_content {strategy : RowStrategy} (hmodest : strategy.Modest)
    (spec : RowSpec) (forest : Forest) :
    ∃ initial, ((strategy.content spec).perform forest).2 = forest.hold initial := by
  rcases hmodest.content spec with ⟨made, hmade⟩ | ⟨value, made, hmade⟩
  · rw [hmade]
    exact ⟨none, rfl⟩
  · rw [hmade]
    exact ⟨some value, rfl⟩

/-- Whatever row it is for, the content is a packed widget of this type. -/
structure Plain (widgetType : String) (strategy : RowStrategy) : Prop extends
    Modest strategy where
  packable : Packable widgetType
  yields : ∀ spec made, (strategy.content spec).Yields made → made.node.Plain widgetType

end RowStrategy

/-- The default container of a row is a packed frame. -/
theorem RowSpec.plain_container (spec : RowSpec) : spec.container.Plain "Frame" :=
  ⟨rfl, rfl, rfl, rfl⟩

/-- Frames can be packed. -/
theorem packable_frame : Packable "Frame" := ⟨.inner "Frame" [], rfl, rfl⟩

private theorem RowStrategy.modest_label : RowStrategy.label.Modest :=
  ⟨fun _ => rfl, fun _ => .inl ⟨_, rfl⟩⟩

private theorem RowStrategy.modest_checkbox : RowStrategy.checkbox.Modest :=
  ⟨fun _ => rfl, fun _ => .inr ⟨_, _, rfl⟩⟩

private theorem RowStrategy.plain_label : RowStrategy.label.Plain "Label" where
  toModest := modest_label
  packable := ⟨.inner "Label" [], rfl, rfl⟩
  yields := by
    rintro spec _ ⟨σ, _, toolkit, rfl⟩
    exact ⟨rfl, rfl, rfl, rfl⟩

/-- The content of a row that can be checked is a packed check button. -/
theorem RowStrategy.plain_checkbox : RowStrategy.checkbox.Plain "Checkbutton" where
  toModest := modest_checkbox
  packable := ⟨_, rfl, rfl⟩
  yields := by
    rintro spec _ ⟨σ, _, toolkit, rfl⟩
    exact ⟨rfl, rfl, rfl, rfl⟩

/-- The built-in strategies make packed widgets and nothing else. -/
theorem RowResolver.plain_of_resolve {kind : Kind} {strategy : RowStrategy}
    (hresolve : RowResolver.standard.resolve kind = .ok strategy) :
    ∃ widgetType, strategy.Plain widgetType := by
  cases kind <;> cases hresolve
  · exact ⟨"Label", RowStrategy.plain_label⟩
  · exact ⟨"Label", RowStrategy.plain_label⟩
  · exact ⟨"Checkbutton", RowStrategy.plain_checkbox⟩

section State

variable {row : Row} {handle : VariableId} {forest : Forest} {current : Value}
variable (hheld : forest.valueIn? handle = some current)
include hheld

/-- A variable that holds something is read. -/
theorem Forest.perform_readVariable (describe : ToolkitError → BuildError) :
    (Act.ofOperation describe (Toolkit.readVariable handle)).perform forest =
      (.ok current, forest) := by
  have hread : forest.readVariable handle = (.ok current, forest) := by
    rw [readVariable, hheld]
  rw [Act.perform_ofOperation]
  change ((forest.readVariable handle).1.mapError _, (forest.readVariable handle).2) = _
  rw [hread]
  rfl

/-- A variable that holds something is written to. -/
theorem Forest.perform_writeVariable (describe : ToolkitError → BuildError) (value : Value) :
    (Act.ofOperation describe (Toolkit.writeVariable handle value)).perform forest =
      (.ok (), (forest.writeVariable handle value).2) := by
  have hwrite : (forest.writeVariable handle value).1 = .ok () := by
    rw [writeVariable, hheld]
  rw [Act.perform_ofOperation]
  change ((forest.writeVariable handle value).1.mapError _, _) = _
  rw [hwrite]
  rfl

variable (hstate : row.state = some handle)
include hstate

/-- A row is checked as its state variable says. -/
theorem Row.perform_isChecked_of_held :
    row.isChecked.perform forest = (.ok (some current.truthy), forest) := by
  rw [isChecked, hstate]
  exact Act.perform_bind_ok (Forest.perform_readVariable hheld _) _

/-- Checking a row or unchecking it writes 1 or 0 to its state variable. -/
theorem Row.perform_setChecked_of_held (checked : Bool) :
    (row.setChecked checked).perform forest =
      (.ok (), (forest.writeVariable handle (.int (if checked then 1 else 0))).2) := by
  rw [setChecked, hstate]
  exact Forest.perform_writeVariable hheld _ _

end State

private theorem Row.perform_destroy (row : Row) (forest : Forest) :
    row.destroy.perform forest = (.ok (), forest.withoutRow row) := by
  have hcontent := Act.perform_onOwn_ok (Core.perform_destroy row.content forest)
  have hcontainer := Act.perform_onOwn_ok
    (Core.perform_destroy row.container (forest.without row.content.widget))
  rw [destroy, Act.perform_bind, Act.perform_attempt, hcontent]
  dsimp only
  rw [Act.perform_bind, Act.perform_attempt, hcontainer]
  rfl

namespace Collection

/-- All that adding a row can do: it fails before anything is built, for want of a strategy or a
widget, or it builds the row, which joins the others if that succeeds. -/
theorem addRowWith_builds {σ : Type} [Toolkit σ] {core : Core} {spec : RowSpec}
    {work after : Work Collection σ} {result : Except BuildError Row}
    (hadd : (addRowWith core spec).perform work = (result, after)) :
    ((∃ error, result = .error error) ∧ after = work) ∨
    ∃ strategy parent outcome built,
      work.subject.resolver.resolve (kind core) = .ok strategy ∧ core.widget = some parent ∧
      (buildRow strategy work.subject.config parent spec).perform work.toolkit =
        (outcome, built) ∧
      ((∃ error, outcome = .error error ∧ result = .error error ∧ after = ⟨work.subject, built⟩) ∨
      ∃ row, outcome = .ok row ∧ result = .ok row ∧
        after = ⟨{ work.subject with rows := work.subject.rows ++ [row] }, built⟩) := by
  rw [addRowWith, Act.perform_bind_ok (Act.perform_subject _), Act.perform_bind,
    Act.perform_ofExcept] at hadd
  cases hresolve : work.subject.resolver.resolve (kind core) with
  | error error =>
    rw [hresolve] at hadd
    cases hadd
    exact .inl ⟨⟨error, rfl⟩, rfl⟩
  | ok strategy =>
    rw [hresolve] at hadd
    dsimp only at hadd
    rw [Act.perform_bind, Act.perform_ofExcept, Core.requireWidget] at hadd
    cases hwidget : core.widget with
    | none =>
      rw [hwidget] at hadd
      cases hadd
      exact .inl ⟨⟨_, rfl⟩, rfl⟩
    | some parent =>
      rw [hwidget] at hadd
      dsimp only at hadd
      rw [Act.perform_bind, Act.perform_inToolkit] at hadd
      rcases hrow : (buildRow strategy work.subject.config parent spec).perform work.toolkit with
        ⟨error | row, built⟩
      · rw [hrow] at hadd
        cases hadd
        exact .inr ⟨strategy, parent, _, built, rfl, rfl, hrow, .inl ⟨error, rfl, rfl, rfl⟩⟩
      · rw [hrow] at hadd
        cases hadd
        exact .inr ⟨strategy, parent, _, built, rfl, rfl, hrow, .inr ⟨row, rfl, rfl, rfl⟩⟩

/-- A row that was built has its container inside the widget that was asked for, and inside that its
content, which is what the strategy came to once the container stood. -/
theorem parts_of_buildRow {σ : Type} [Toolkit σ] {strategy : RowStrategy} {config : Config}
    {parent : WidgetId} {spec : RowSpec} {toolkit left : σ} {row : Row}
    (hrow : (buildRow strategy config parent spec).perform toolkit = (.ok row, left)) :
    ∃ housed holder made held,
      (Core.build config (some parent)).perform ⟨.ofSpec (strategy.container spec), toolkit⟩ =
        (.ok (), ⟨row.container, housed⟩) ∧
      row.container.widget = some holder ∧
      (strategy.content spec).perform housed = (made, held) ∧
      (Core.build config (some holder)).perform ⟨.ofSpec made.node, held⟩ =
        (.ok (), ⟨row.content, left⟩) := by
  rw [buildRow] at hrow
  obtain ⟨⟨_, container⟩, housed, hcontainer, hrow⟩ := Act.perform_bind_eq_ok_iff.mp hrow
  obtain ⟨holder, _, hrequire, hrow⟩ := Act.perform_bind_eq_ok_iff.mp hrow
  obtain ⟨made, held, hmade, hrow⟩ := Act.perform_bind_eq_ok_iff.mp hrow
  obtain ⟨outcome, built, hcontent, hrow⟩ := Act.perform_bind_eq_ok_iff.mp hrow
  cases outcome with
  | error error =>
    obtain ⟨_, _, _, hthrown⟩ := Act.perform_bind_eq_ok_iff.mp hrow
    cases hthrown
  | ok finished =>
    obtain ⟨_, content⟩ := finished
    cases hrow
    rw [Act.perform_ofExcept, Core.requireWidget] at hrequire
    cases hwidget : container.widget with
    | none =>
      rw [hwidget] at hrequire
      cases hrequire
    | some widget =>
      rw [hwidget] at hrequire
      cases hrequire
      cases hmade
      refine ⟨housed, holder, _, _, Act.perform_onOwn_eq_ok_iff.mp hcontainer, rfl, rfl,
        Act.perform_onOwn_eq_ok_iff.mp ?_⟩
      rw [Act.perform_attempt, Prod.mk.injEq, Except.ok.injEq] at hcontent
      exact Prod.ext hcontent.1 hcontent.2

variable {forest : Forest} {strategy : RowStrategy} {widgetType : String} {parent : WidgetId}

/-- Releasing rows always succeeds in a forest, and takes their widgets away one row after the
other. -/
theorem perform_releaseRows (rows : List Row) (forest : Forest) :
    (releaseRows rows).perform forest = (.ok (), rows.foldl Forest.withoutRow forest) := by
  induction rows generalizing forest with
  | nil => rfl
  | cons row rest ih =>
    rw [releaseRows, Act.perform_bind, Act.perform_attempt, row.perform_destroy]
    dsimp only
    rw [Act.perform_bind, Act.perform_attempt, ih]
    rfl

/-- Inside a live widget a row is built to the end. -/
theorem perform_buildRow_of_live (hsound : forest.Sound) (hplain : strategy.Plain widgetType)
    (hparent : parent ∈ forest.live) (config : Config) (spec : RowSpec) :
    (buildRow strategy config parent spec).perform forest =
      (.ok (forest.makeRow strategy widgetType parent spec).1,
        (forest.makeRow strategy widgetType parent spec).2) := by
  let housed := forest.pack "Frame" parent spec.container
  let made := (strategy.content spec).perform housed
  have hcontainer := Act.perform_onOwn_ok
    (Core.perform_build_of_live hsound spec.plain_container packable_frame hparent config)
  obtain ⟨initial, hheld⟩ := hplain.perform_content spec housed
  have htouches : Forest.Touches forest.next housed made.2 :=
    hheld ▸ Forest.hold_touches housed initial forest.next
  have hsoundMade : made.2.Sound := htouches.sound (hsound.pack "Frame" spec.container hparent)
  have hholder : forest.next ∈ made.2.live := by
    rw [htouches.live]
    exact (Forest.mem_live_pack_iff "Frame" spec.container hsound).mpr (.inr rfl)
  have hcontent := Act.perform_onOwn_ok (Core.perform_build_of_live hsoundMade
    (hplain.yields spec made.1 (Script.yields_perform _ housed)) hplain.packable hholder config)
  have hnext : made.2.next = housed.next := by rw [Forest.next, htouches.constructed, Forest.next]
  rw [hnext] at hcontent
  rw [buildRow, hplain.container, Act.perform_bind_ok hcontainer]
  dsimp only
  rw [Act.perform_bind_ok (Core.perform_requireWidget rfl _),
    Act.perform_bind_ok (Act.perform_ofScript _ _), Act.perform_bind, Act.perform_attempt, hcontent]
  rfl

/-- Inside a widget that is gone no row is begun. -/
theorem perform_buildRow_of_dead (hparent : parent ∉ forest.live) (config : Config)
    (spec : RowSpec) :
    ∃ error, (buildRow strategy config parent spec).perform forest = (.error error, forest) := by
  obtain ⟨error, hbuild⟩ := Core.perform_build_of_dead (strategy.container spec) hparent config
  exact ⟨error, Act.perform_bind_error (Act.perform_onOwn_error hbuild) _⟩

end Collection

end WidgetTree
