import WidgetTree.Proofs.Build.Site
import WidgetTree.Proofs.Build.Work
import WidgetTree.Proofs.Forest.Command
import WidgetTree.Proofs.Mirror.Build

namespace WidgetTree

open Forest

/-- The class of the widgets that buttons or check boxes are meant to have. -/
def Role.control? : Role → Option String
  | button => some "Button"
  | checkbox _ => some "Checkbutton"
  | _ => none

private theorem Forest.harmless_of_plain (forest : Forest) {told : Fields Value}
    (hplain : ∀ entry ∈ told, entry.2.isHandle = false) : forest.Harmless told := by
  rintro ⟨name, value⟩ hentry
  have hvalue := hplain (name, value) hentry
  refine ⟨?_, ?_⟩
  · cases value <;> first | rfl | cases hvalue
  · rintro handle rfl
    cases hvalue

namespace Core

/-- A core that is worked on, in the course of which nothing is fired and some widgets are spared.
Its widget, if it has one, is none of these, and is without a command. -/
structure Silent (spared : WidgetId → Prop) (typed : String → Prop) (spec : NodeSpec)
    (base : Forest) (work : Work Core Forest) : Prop where
  spec : work.subject.spec = spec
  hushed : Hushed spared base work.toolkit
  widget : ∀ widget ∈ work.subject.widget, ¬ spared widget ∧
    ∃ widgetType, typed widgetType ∧ work.toolkit.Bears widget widgetType none
  built : work.subject.state = .built → work.subject.widget ≠ none

variable {spared : WidgetId → Prop} {typed : String → Prop} {spec : NodeSpec} {base : Forest}

section Work

variable {core : Core}

private theorem Silent.idles {forest left : Forest} {widget : WidgetId}
    (hsilent : Silent spared typed spec base ⟨core, forest⟩) (hwidget : core.widget = some widget)
    (hidles : ∀ widgetType, forest.Bears widget widgetType none →
      Idles widget widgetType forest left) : Silent spared typed spec base ⟨core, left⟩ := by
  obtain ⟨hother, widgetType, htyped, hbears⟩ := hsilent.widget widget hwidget
  have hwork := hidles widgetType hbears
  exact ⟨hsilent.spec, hsilent.hushed.idles hother hwork,
    forall_mem_widget hwidget ⟨hother, widgetType, htyped, hwork.bears⟩, hsilent.built⟩

private theorem attach_silent (core : Core) (config : Config) :
    Act.Preserves (fun forest => Silent spared typed spec base ⟨core, forest⟩)
      (core.attach config) :=
  attach_preserves config fun _ hwidget strategy args _ hsilent =>
    hsilent.idles hwidget fun _ hbears => attach_idles hbears strategy args

private theorem configure_silent (hfree : spec.HandleFree) (core : Core) :
    Act.Preserves (fun forest => Silent spared typed spec base ⟨core, forest⟩) core.configure := by
  refine configure_preserves ?_ ?_
  · intro widget hwidget name value forest hsilent
    exact hsilent.idles hwidget fun _ hbears => setAttribute_idles hbears name value
  · intro widget hwidget sequence hsequence made hmade forest hsilent
    have hcalls : made ∈ spec.sequenceCalls := by
      rw [← hsilent.spec, NodeSpec.sequenceCalls, hsequence]
      exact hmade
    have hharmless := forest.harmless_of_plain (hfree.sequence made hcalls).2
    exact hsilent.idles hwidget fun _ hbears => invoke_idles hbears hharmless

private theorem runHook_silent (hfree : spec.HandleFree) (core : Core) (hspec : core.spec = spec) :
    Act.Preserves (fun forest => Silent spared typed spec base ⟨core, forest⟩) core.runHook := by
  rw [runHook]
  split
  · exact .pure ()
  · refine requireWidget_preserves fun widget hwidget => callAll_preserves core.id ?_
    intro made hmade forest hsilent
    have hharmless := forest.harmless_of_plain (hfree.hook made (hspec ▸ hmade)).2
    exact hsilent.idles hwidget fun _ hbears => invoke_idles hbears hharmless

private theorem Silent.invoke {forest : Forest}
    (hsilent : Silent spared typed spec base ⟨core, forest⟩)
    {made : Call} (hharmless : forest.Harmless made.args.keyword) :
    Silent spared typed spec base ⟨core, ((core.invoke made).perform forest).2⟩ := by
  cases hwidget : core.widget with
  | none =>
    rw [perform_invoke_none hwidget]
    exact hsilent
  | some widget =>
    rw [perform_invoke hwidget]
    exact hsilent.idles hwidget fun _ hbears => invoke_idles hbears hharmless

end Work

private theorem thenDo_silent {α : Type} {act : Core → Act Forest α}
    (hact : ∀ core : Core, core.spec = spec →
      Act.Preserves (fun forest => Silent spared typed spec base ⟨core, forest⟩) (act core)) :
    Act.Preserves (Silent spared typed spec base) (thenDo act) :=
  fun work hsilent => hact work.subject hsilent.spec work.toolkit hsilent

/-- An element that was configured has a widget, so that it may count as built. -/
theorem finish_silent (hfree : spec.HandleFree) :
    Act.Preserves (Silent spared typed spec base)
      (thenDo (·.configure) >>= fun _ => markBuilt) := by
  rintro ⟨core, forest⟩ hsilent
  have hconfigured := configure_silent hfree core forest hsilent
  rw [Act.perform_bind, perform_thenDo]
  cases hwidget : core.widget with
  | none =>
    have hrefused : core.configure.perform forest =
        (.error (.configuration core.id "element has no widget (not built or destroyed)"),
          forest) := by
      rw [configure, assignAttributes, bind_assoc, Act.perform_bind, Act.perform_ofExcept,
        requireWidget, hwidget]
    rw [hrefused]
    exact hsilent
  | some widget =>
    rcases hconfigure : core.configure.perform forest with ⟨error | _, configured⟩
    · rw [hconfigure] at hconfigured
      exact hconfigured
    · rw [hconfigure] at hconfigured
      refine ⟨hconfigured.spec, hconfigured.hushed, hconfigured.widget, fun _ hnone => ?_⟩
      cases hwidget.symm.trans hnone

section Build

variable (hfree : spec.HandleFree) (hspared : ∀ widget, spared widget → widget ∈ base.live)
include hfree hspared

private theorem construct_silent {widgetType : String} (htyped : typed widgetType)
    (target : Option WidgetId) :
    Act.Preserves (Silent spared typed spec base) (construct widgetType target) := by
  rintro ⟨core, forest⟩ hsilent
  obtain rfl : core.spec = spec := hsilent.spec
  have hthere (widget : WidgetId) (hwidget : spared widget) : widget ∈ forest.live := by
    obtain ⟨record, hrecord⟩ := mem_live_iff.mp (hspared widget hwidget)
    exact mem_live_iff.mpr ⟨record, (hsilent.hushed.records widget hwidget).trans hrecord⟩
  rw [perform_construct]
  rcases construct_cases widgetType target core.spec.constructorArgs forest with
    ⟨error, hrefused⟩ | ⟨-, hlive, hplanted⟩
  · rw [hrefused]
    exact hsilent
  · have hsound : forest.Sound := hsilent.hushed.sound
    have hharmless := forest.harmless_of_plain hfree.constructorArgs
    have hbears := @bears_plant forest widgetType hsound target _ hharmless
    have hother : ¬ spared forest.next := fun hnext => hsound.next_not_live (hthere _ hnext)
    have hseated : (core.seated forest.next target).widget = some forest.next := rfl
    rw [hplanted]
    show Silent spared typed core.spec base ⟨core.seated forest.next target, _⟩
    exact ⟨rfl, hsilent.hushed.plant hlive hthere _ _,
      forall_mem_widget hseated ⟨hother, widgetType, htyped, hbears⟩, nofun⟩

private theorem buildAs_silent (config : Config) (target : Option WidgetId) {widgetType : String}
    (htyped : typed widgetType) :
    Act.Preserves (Silent spared typed spec base) (buildAs config target widgetType) :=
  .bind (construct_silent hfree hspared htyped target) fun _ =>
    .bind (thenDo_silent fun core _ => attach_silent core config) fun _ => finish_silent hfree

private theorem build_silent (config : Config) (target : Option WidgetId)
    (htyped : ∀ widgetType ∈ spec.widgetType, typed widgetType) :
    Act.Preserves (Silent spared typed spec base) (build config target) := by
  refine .bind_of (fun _ hsilent => hsilent) ?_
  rintro work core after hsilent hsubject
  have hspec : work.subject.spec = spec := hsilent.spec
  cases hsubject
  rw [hspec]
  cases htype : spec.widgetType with
  | none => exact .ofExcept (.error _)
  | some widgetType => exact buildAs_silent hfree hspared config target (htyped _ htype)

private theorem buildWindow_silent (config : Config) (target : Option WidgetId)
    (htyped : ∀ widgetType, typed widgetType) :
    Act.Preserves (Silent spared typed spec base) (buildWindow config target) := by
  have htold (method : String) (text : Option String) :
      Act.Preserves (Silent spared typed spec base) (thenDo (callWith method text)) := by
    refine thenDo_silent fun core _ => ?_
    cases text with
    | none => exact .pure ()
    | some text =>
      have hharmless (forest : Forest) : forest.Harmless (windowCall method text).args.keyword :=
        forest.harmless_of_plain (by simp [windowCall])
      exact .bind (fun forest hsilent => hsilent.invoke (hharmless forest)) fun _ => .pure ()
  refine .bind (fun _ hsilent => hsilent) fun core => ?_
  refine .bind (construct_silent hfree hspared (htyped _) target) fun _ => ?_
  exact .bind (htold _ _) fun _ => .bind (htold _ _) fun _ => finish_silent hfree

end Build

end Core

namespace Element

/-- A widget of this type is of the class that is meant, so far as the node declares that one. -/
def Suits (meant : Option String) (spec : NodeSpec) (widgetType : String) : Prop :=
  ∀ widgetClass ∈ meant, spec.widgetType = some widgetClass → widgetType = widgetClass

/-- An element that is worked on, in the course of which nothing is fired and some widgets are
spared. What class of widget it is meant for stays. -/
def Silent (spared : WidgetId → Prop) (meant : Option String) (spec : NodeSpec) (base : Forest)
    (work : Work Element Forest) : Prop :=
  work.subject.role.control? = meant ∧
    Core.Silent spared (Suits meant spec) spec base ⟨work.subject.core, work.toolkit⟩

variable {spared : WidgetId → Prop} {meant : Option String} {spec : NodeSpec} {base : Forest}

private theorem onCore_silent {α : Type} {act : Act (Work Core Forest) α}
    (hact : Act.Preserves (Core.Silent spared (Suits meant spec) spec base) act) :
    Act.Preserves (Silent spared meant spec base) (onCore act) :=
  fun work hsilent => ⟨hsilent.1, hact ⟨work.subject.core, work.toolkit⟩ hsilent.2⟩

private theorem setRole_silent {role : Role} (hrole : role.control? = meant) :
    Act.Preserves (Silent spared meant spec base) (setRole role) :=
  fun _ hsilent => ⟨hrole, hsilent.2⟩

private theorem Silent.create {work : Work Element Forest}
    (hsilent : Silent spared meant spec base work) (value : Value) :
    Silent spared meant spec base ⟨work.subject, (work.toolkit.createVariable value).2⟩ := by
  obtain ⟨hrole, hspec, hhushed, hwidget, hbuilt⟩ := hsilent
  refine ⟨hrole, hspec, hhushed.create value, fun widget hown => ?_, hbuilt⟩
  obtain ⟨hother, widgetType, hsuits, hbears⟩ := hwidget widget hown
  have hmore : work.toolkit.heldValues.length ≤
      (work.toolkit.createVariable value).2.heldValues.length := by simp [createVariable]
  exact ⟨hother, widgetType, hsuits, hbears.of_record rfl hmore⟩

/-- Telling the widget a state variable is harmless once the variable is created. -/
theorem Silent.share {work : Work Element Forest} (hsilent : Silent spared meant spec base work)
    {handle : VariableId} (hcreated : work.toolkit.Created handle) :
    Silent spared meant spec base
      ((onCore (Core.thenDo (·.invoke (shareVariable handle)))).perform work).2 := by
  have hharmless : work.toolkit.Harmless (shareVariable handle).args.keyword := by
    simp [Harmless, shareVariable, Value.command?, hcreated]
  exact ⟨hsilent.1, hsilent.2.invoke hharmless⟩

section Build

variable (hfree : spec.HandleFree) (hspared : ∀ widget, spared widget → widget ∈ base.live)
include hfree hspared

private theorem onCoreBuild_silent (config : Config) (target : Option WidgetId) :
    Act.Preserves (Silent spared meant spec base) (onCore (Core.build config target)) := by
  refine onCore_silent (Core.build_silent hfree hspared config target ?_)
  intro widgetType htype widgetClass _ hdeclared
  exact Option.some.inj ((Option.mem_def.mp htype).symm.trans hdeclared)

private theorem buildCheckbox_silent (config : Config) (target : Option WidgetId)
    (hmeant : meant = some "Checkbutton") :
    Act.Preserves (Silent spared meant spec base) (buildCheckbox config target) := by
  refine .bind (onCoreBuild_silent hfree hspared config target) fun _ => ?_
  intro work hsilent
  let created := work.toolkit.createVariable (.int 0)
  have hcreated : created.2.Created created.1 := by simp [Created, created, createVariable]
  have hshared := Silent.share (hsilent.create (.int 0)) hcreated
  have hrest := Act.Preserves.bind_after hshared fun _ =>
    @setRole_silent spared meant spec base (.checkbox (some created.1)) hmeant.symm
  rw [Act.perform_bind]
  exact hrest

/-- Building an element in any role fires nothing, however far it gets. -/
theorem build_silent (config : Config) (target : Option WidgetId) :
    Act.Preserves (Silent spared meant spec base) (build config target) := by
  refine .bind_of (fun _ hsilent => hsilent) ?_
  rintro work element after hsilent hsubject
  have hmeant := hsilent.1
  cases hsubject
  cases hrole : work.subject.role with
  | generic | button => exact onCoreBuild_silent hfree hspared config target
  | checkbox status =>
    rw [hrole] at hmeant
    exact buildCheckbox_silent hfree hspared config target hmeant.symm
  | window =>
    rw [hrole] at hmeant
    subst hmeant
    exact onCore_silent (Core.buildWindow_silent hfree hspared config target fun _ => nofun)
  | register tabs =>
    rw [hrole] at hmeant
    subst hmeant
    exact onCore_silent (Core.buildAs_silent hfree hspared config target nofun)
  | collection collection =>
    rw [hrole] at hmeant
    exact .bind (setRole_silent hmeant) fun _ => onCoreBuild_silent hfree hspared config target

end Build

private theorem addTabs_silent (found : List (String × WidgetId)) :
    Act.Preserves (Silent spared meant spec base) (addTabs found) := by
  induction found with
  | nil => exact .pure ()
  | cons entry rest ih =>
    refine .bind (onCore_silent (Core.thenDo_silent fun core _ forest hsilent => ?_)) fun _ =>
      .bind ?_ fun _ => ih
    · exact hsilent.invoke (forest.harmless_of_plain (by simp [addTab, Value.isHandle]))
    · rintro ⟨⟨core, role⟩, forest⟩ hsilent
      cases role <;> exact hsilent

/-- What an element does once its children are built fires nothing, if its node brings no handles.
-/
theorem postSubtree_silent (hfree : spec.HandleFree) (children : List NodeTree)
    (bound : String → Option WidgetId) :
    Act.Preserves (Silent spared meant spec base) (postSubtree children bound) := by
  have hhook : Act.Preserves (Silent spared meant spec base)
      (onCore (Core.thenDo (·.runHook))) :=
    onCore_silent (Core.thenDo_silent fun core hspec => Core.runHook_silent hfree core hspec)
  refine .bind (fun _ hsilent => hsilent) fun element => ?_
  split
  · exact .bind (.ofExcept _) fun found => .bind (addTabs_silent found) fun _ => hhook
  · exact hhook

end Element

end WidgetTree
