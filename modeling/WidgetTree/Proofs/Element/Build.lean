import WidgetTree.Proofs.Boxes.Build
import WidgetTree.Proofs.Forest.Failure
import WidgetTree.Proofs.Rows.Served

namespace WidgetTree

open Forest

/-- Whatever is asked of a reachable forest, it stays one. -/
theorem Forest.reachable_steady : Steady Reachable := fun _ hreachable request =>
  hreachable.serve request

/-- Every live widget of a catalogued forest can be told a state variable. -/
theorem Forest.Catalogued.invoke_shareVariable {forest : Forest} {widget : WidgetId}
    (hcatalogued : forest.Catalogued) (hlive : widget ∈ forest.live) (handle : VariableId) :
    ∃ left, forest.invoke widget (Element.shareVariable handle) = (.ok .null, left) := by
  obtain ⟨record, hrecord⟩ := mem_live_iff.mp hlive
  obtain ⟨cls, hclass⟩ := hcatalogued widget record hrecord
  have haccepts := accepts_of_class hrecord hclass (Element.shareVariable handle).method
  rw [invoke_of_accepts hrecord haccepts]
  exact ⟨_, rfl⟩

namespace Core

/-- The core at the end of a build with this result: it counts as built just if the build
succeeded. -/
def ended (core : Core) : Except BuildError Unit → Core
  | .ok () => { core with state := .built }
  | .error _ => core

/-- At the end of a build the core has the widget that it had. -/
@[simp] theorem widget_ended (core : Core) (result : Except BuildError Unit) :
    (core.ended result).widget = core.widget := by
  cases result <;> rfl

/-- All that building an element inside a target can do: the build is refused and changes neither
the core nor the forest, or the next widget is planted, the core has it, and there is work on that
widget alone. -/
inductive Builds (target : Option WidgetId) (core : Core) (forest : Forest) :
    Except BuildError Unit → Core → Forest → Prop
  | refused (error : BuildError) : Builds target core forest (.error error) core forest
  | seated {widgetType : String} {left : Forest} (result : Except BuildError Unit)
      (hparent : ∀ outer ∈ target, outer ∈ forest.live)
      (htouches : Touches forest.next
        (forest.plant widgetType target core.spec.constructorArgs) left) :
      Builds target core forest result ((core.seated forest.next target).ended result) left

/-- An act that is work on the widget of the core, and after which the core counts as built if all
of the work succeeds. -/
def Finishes (core : Core) (widget : WidgetId) (base : Forest) (act : Act (Work Core Forest) Unit) :
    Prop :=
  ∀ forest result after, Touches widget base forest →
    act.perform ⟨core, forest⟩ = (result, after) →
      Touches widget base after.toolkit ∧ after.subject = core.ended result

section Finishes

variable {core after : Core} {widget : WidgetId} {base forest left : Forest}
variable {result : Except BuildError Unit} {target : Option WidgetId}

private theorem markBuilt_finishes : Finishes core widget base markBuilt := by
  intro forest result after htouches hmark
  cases hmark
  exact ⟨htouches, rfl⟩

private theorem Finishes.thenDo {act : Core → Act Forest Unit} {rest : Act (Work Core Forest) Unit}
    (hact : Act.Preserves (Touches widget base) (act core))
    (hrest : Finishes core widget base rest) :
    Finishes core widget base (Core.thenDo act >>= fun _ => rest) := by
  intro forest result after htouches hperform
  have hdone := hact forest htouches
  rw [Act.perform_bind, perform_thenDo] at hperform
  rcases hfirst : (act core).perform forest with ⟨error | _, left⟩
  · rw [hfirst] at hperform hdone
    cases hperform
    exact ⟨hdone, rfl⟩
  · rw [hfirst] at hperform hdone
    exact hrest left result after hdone hperform

private theorem callWith_touches (hwidget : core.widget = some widget) (method : String)
    (text : Option String) : Act.Preserves (Touches widget base) (callWith method text core) := by
  cases text with
  | none => exact .pure ()
  | some text => exact .bind (invoke_touches hwidget _) fun _ => .pure ()

/-- A build is refused if its widget cannot be constructed, and else goes on with that widget. -/
theorem Builds.of_construct {widgetType : String} {rest : Act (Work Core Forest) Unit}
    (hrest : ∀ base, Finishes (core.seated forest.next target) forest.next base rest)
    (hbuild : (construct widgetType target >>= fun _ => rest).perform ⟨core, forest⟩ =
      (result, ⟨after, left⟩)) : Builds target core forest result after left := by
  have hconstruct := perform_construct widgetType target core forest
  rcases construct_cases widgetType target core.spec.constructorArgs forest with
    ⟨error, hcase⟩ | ⟨-, hparent, hcase⟩
  · rw [hcase] at hconstruct
    rw [Act.perform_bind_error hconstruct] at hbuild
    cases hbuild
    exact .refused _
  · rw [hcase] at hconstruct
    rw [Act.perform_bind_ok hconstruct] at hbuild
    obtain ⟨htouches, rfl⟩ := hrest _ _ _ _ (.refl _ _) hbuild
    exact .seated result hparent htouches

private theorem buildAs_builds {config : Config} {widgetType : String}
    (hbuild : (buildAs config target widgetType).perform ⟨core, forest⟩ =
      (result, ⟨after, left⟩)) : Builds target core forest result after left :=
  .of_construct (fun _ => .thenDo (attach_touches rfl config)
    (.thenDo (configure_touches rfl) markBuilt_finishes)) hbuild

private theorem build_builds {config : Config}
    (hbuild : (build config target).perform ⟨core, forest⟩ = (result, ⟨after, left⟩)) :
    Builds target core forest result after left := by
  rw [build, Act.perform_bind_ok (Act.perform_subject _)] at hbuild
  dsimp only at hbuild
  cases htype : core.spec.widgetType with
  | none =>
    rw [htype] at hbuild
    cases hbuild
    exact .refused _
  | some widgetType =>
    rw [htype] at hbuild
    exact buildAs_builds hbuild

private theorem buildWindow_builds {config : Config}
    (hbuild : (buildWindow config target).perform ⟨core, forest⟩ = (result, ⟨after, left⟩)) :
    Builds target core forest result after left := by
  rw [buildWindow, Act.perform_bind_ok (Act.perform_subject _)] at hbuild
  exact .of_construct (fun _ => .thenDo (callWith_touches rfl _ _)
    (.thenDo (callWith_touches rfl _ _) (.thenDo (configure_touches rfl) markBuilt_finishes)))
    hbuild

end Finishes

end Core

namespace Element

variable {core : Core} {role : Role} {after : Element} {config : Config}
variable {target : Option WidgetId} {forest left : Forest} {result : Except BuildError Unit}

/-- What is done with the core of an element is done with the element. -/
theorem builds_of_onCore {act : Act (Work Core Forest) Unit}
    (hact : ∀ {result after left}, act.perform ⟨core, forest⟩ = (result, ⟨after, left⟩) →
      Core.Builds target core forest result after left)
    (hbuild : (onCore act).perform ⟨⟨core, role⟩, forest⟩ = (result, ⟨after, left⟩)) :
    Core.Builds target core forest result after.core left := by
  rw [perform_onCore] at hbuild
  cases hbuild
  exact hact rfl

/-- A check box that has its widget gets its state variable too: every widget can be told one. -/
theorem buildCheckbox_builds (hreachable : forest.Reachable)
    (hbuild : (buildCheckbox config target).perform ⟨⟨core, role⟩, forest⟩ =
      (result, ⟨after, left⟩)) : Core.Builds target core forest result after.core left := by
  rcases hcore : (Core.build config target).perform ⟨core, forest⟩ with ⟨error | _, built, settled⟩
  · rw [buildCheckbox, Act.perform_bind, perform_onCore, hcore] at hbuild
    cases hbuild
    exact Core.build_builds hcore
  · have hsettled := Core.build_steady reachable_steady config target ⟨core, forest⟩ hreachable
    rw [hcore] at hsettled
    cases Core.build_builds hcore with
    | @seated widgetType _ _ hparent htouches =>
      let created := settled.createVariable (.int 0)
      have hcreated : created.2.Reachable := hsettled.serve (.createVariable (.int 0))
      have hlive : forest.next ∈ created.2.live := by
        change forest.next ∈ settled.live
        rw [htouches.live, mem_live_plant_iff _ _ _ hreachable.sound]
        exact .inr rfl
      obtain ⟨told, htold⟩ := hcreated.catalogued.invoke_shareVariable hlive created.1
      obtain ⟨rfl, hsucceeds, hafter⟩ := left_of_buildCheckbox hbuild hcore rfl
      obtain rfl : result = .ok () := hsucceeds.mp ⟨.null, congrArg Prod.fst htold⟩
      rw [hafter rfl]
      have hnoted : Touches forest.next settled created.2 := .of_slots _ rfl rfl rfl rfl rfl
      have htouched := (invoke_spec forest.next (shareVariable created.1) created.2).1
      exact .seated (.ok ()) hparent ((htouches.trans hnoted).trans htouched)

/-- All that building an element in any role can do to its core and the forest. -/
theorem build_builds (hreachable : forest.Reachable) {element : Element}
    (hbuild : (build config target).perform ⟨element, forest⟩ = (result, ⟨after, left⟩)) :
    Core.Builds target element.core forest result after.core left := by
  obtain ⟨core, role⟩ := element
  rw [build, Act.perform_bind_ok (Act.perform_subject _)] at hbuild
  cases role with
  | generic | button => exact builds_of_onCore Core.build_builds hbuild
  | window => exact builds_of_onCore Core.buildWindow_builds hbuild
  | checkbox status => exact buildCheckbox_builds hreachable hbuild
  | register tabs => exact builds_of_onCore Core.buildAs_builds hbuild
  | collection collection =>
    have hcore : (onCore (Core.build config target)).perform
        ⟨⟨core, .collection { collection with config }⟩, forest⟩ = (result, ⟨after, left⟩) := hbuild
    exact builds_of_onCore Core.build_builds hcore

end Element

section Steady

variable {kept : Forest → Prop}

/-- What the core of an element asks of the forest, the element asks. -/
theorem Element.onCore_steady {α : Type} {act : Act (Work Core Forest) α}
    (hact : Act.Preserves (fun work : Work Core Forest => kept work.toolkit) act) :
    Act.Preserves (fun work : Work Element Forest => kept work.toolkit) (onCore act) :=
  fun work hkept => hact ⟨work.subject.core, work.toolkit⟩ hkept

variable (hsteady : Forest.Steady kept)
include hsteady

private theorem Core.callWith_steady (method : String) (text : Option String) (core : Core) :
    Act.Preserves kept (callWith method text core) := by
  cases text with
  | none => exact .pure ()
  | some text => exact .bind (invoke_steady hsteady core _) fun _ => .pure ()

private theorem Core.buildWindow_steady (config : Config) (target : Option WidgetId) :
    Act.Preserves (fun work : Work Core Forest => kept work.toolkit)
      (buildWindow config target) := by
  refine .bind (fun _ hkept => hkept) fun core => .bind (construct_steady hsteady _ target) fun _ =>
    .bind ?_ fun _ => .bind ?_ fun _ => .bind ?_ fun _ _ hkept => hkept
  · exact fun work hkept => callWith_steady hsteady _ _ work.subject work.toolkit hkept
  · exact fun work hkept => callWith_steady hsteady _ _ work.subject work.toolkit hkept
  · exact fun work hkept => configure_steady hsteady work.subject work.toolkit hkept

namespace Element

private theorem buildCheckbox_steady (config : Config) (target : Option WidgetId) :
    Act.Preserves (fun work : Work Element Forest => kept work.toolkit)
      (buildCheckbox config target) := by
  refine .bind (onCore_steady (Core.build_steady hsteady config target)) fun _ => .bind ?_
    fun status => .bind (onCore_steady ?_) fun _ _ hkept => hkept
  · exact fun work hkept => hsteady work.toolkit hkept (.createVariable (.int 0))
  · exact fun work hkept => Core.invoke_steady hsteady work.subject _ work.toolkit hkept

/-- Building an element is served request by request. -/
theorem build_steady (config : Config) (target : Option WidgetId) :
    Act.Preserves (fun work : Work Element Forest => kept work.toolkit) (build config target) := by
  refine .bind (fun _ hkept => hkept) fun element => ?_
  cases element.role with
  | generic | button => exact onCore_steady (Core.build_steady hsteady config target)
  | window => exact onCore_steady (Core.buildWindow_steady hsteady config target)
  | checkbox status => exact buildCheckbox_steady hsteady config target
  | register tabs => exact onCore_steady (Core.buildAs_steady hsteady config target _)
  | collection collection =>
    exact .bind (fun _ hkept => hkept) fun _ =>
      onCore_steady (Core.build_steady hsteady config target)

/-- Whatever is asked of the rows of an element is served request by request. -/
theorem onRows_steady (request : RowRequest) :
    Act.Preserves (fun work : Work Element Forest => kept work.toolkit)
      (onRows request.act) := by
  refine .bind (fun _ hkept => hkept) fun element => ?_
  cases element.collection? with
  | none => exact .pure ()
  | some collection => exact fun work hkept =>
      request.act_steady hsteady element.core ⟨collection, work.toolkit⟩ hkept

/-- Destroying an element is served request by request. -/
theorem destroy_steady :
    Act.Preserves (fun work : Work Element Forest => kept work.toolkit) destroy := by
  rintro ⟨element, forest⟩ hkept
  rw [perform_destroy]
  exact Forest.without_steady hsteady (Forest.withoutRows_steady hsteady hkept element.rows) _

end Element

end Steady

end WidgetTree
