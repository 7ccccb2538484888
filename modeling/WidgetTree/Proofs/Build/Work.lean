import WidgetTree.Proofs.Build.Element

namespace WidgetTree

open Forest

namespace Core

section Keeps

variable {kept : Forest → Prop} {core : Core}

/-- What every single call keeps, several in turn keep. -/
theorem callAll_preserves (node : String) {widget : WidgetId} {calls : List Call}
    (hcalls : ∀ made ∈ calls, ∀ forest, kept forest → kept (Forest.invoke widget made forest).2) :
    Act.Preserves kept (callAll node widget calls) := by
  induction calls with
  | nil => exact .pure ()
  | cons made rest ih =>
    refine .bind ?_ fun _ => ih fun other hother => hcalls other (List.mem_cons_of_mem _ hother)
    intro forest hkept
    rw [call, Act.perform_ofOperation]
    exact hcalls made List.mem_cons_self forest hkept

/-- Assigning attributes keeps what each assignment keeps. -/
theorem assignAll_preserves (node : String) {widget : WidgetId}
    (hassign : ∀ name value forest, kept forest →
      kept (Forest.setAttribute widget name value forest).2) (attributes : Fields Value) :
    Act.Preserves kept (assignAll node widget attributes) := by
  induction attributes with
  | nil => exact .pure ()
  | cons entry rest ih =>
    refine .bind ?_ fun _ => ih
    intro forest hkept
    rw [Act.perform_ofOperation]
    exact hassign entry.1 entry.2 forest hkept

/-- What is done with the widget that is required is done with the core's widget. -/
theorem requireWidget_preserves {α : Type} {next : WidgetId → Act Forest α}
    (hnext : ∀ widget ∈ core.widget, Act.Preserves kept (next widget)) :
    Act.Preserves kept (Act.ofExcept core.requireWidget >>= next) := by
  intro forest hkept
  rw [Act.perform_bind, Act.perform_ofExcept, requireWidget]
  cases hwidget : core.widget with
  | none => exact hkept
  | some widget => exact hnext widget hwidget forest hkept

/-- Attaching the widget of a core keeps what every attachment of it keeps. -/
theorem attach_preserves (config : Config)
    (hattach : ∀ widget ∈ core.widget, ∀ strategy args forest, kept forest →
      kept (Forest.attach widget strategy args forest).2) :
    Act.Preserves kept (core.attach config) := by
  refine requireWidget_preserves fun widget hwidget => ?_
  split
  · exact .pure ()
  · next strategy _ =>
    intro forest hkept
    rw [Act.perform_ofOperation]
    exact hattach widget hwidget strategy core.spec.attachArgs forest hkept

/-- Configuring a core keeps what every assignment to its widget and every call of its sequence
keeps. -/
theorem configure_preserves
    (hassign : ∀ widget ∈ core.widget, ∀ name value forest, kept forest →
      kept (Forest.setAttribute widget name value forest).2)
    (hcalls : ∀ widget ∈ core.widget, ∀ sequence ∈ core.spec.sequence, ∀ made ∈ sequence.calls,
      ∀ forest, kept forest → kept (Forest.invoke widget made forest).2) :
    Act.Preserves kept core.configure := by
  refine .bind (requireWidget_preserves fun widget hwidget => ?_) fun _ => ?_
  · exact assignAll_preserves core.id (hassign widget hwidget) core.spec.attributes
  · rw [applySequence]
    split
    · exact .pure ()
    · next sequence hsequence =>
      refine requireWidget_preserves fun widget hwidget => ?_
      exact callAll_preserves core.id (hcalls widget hwidget sequence hsequence)

end Keeps

section Work

variable {base : Forest} {widget : WidgetId} {core : Core} (hwidget : core.widget = some widget)
include hwidget

/-- The core has no other widget. -/
theorem forall_mem_widget {holds : WidgetId → Prop} (hholds : holds widget) :
    ∀ other ∈ core.widget, holds other := by
  intro other hother
  obtain rfl := Option.some.inj (hwidget.symm.trans hother)
  exact hholds

/-- Attaching a core is work on its widget. -/
theorem attach_touches (config : Config) :
    Act.Preserves (Touches widget base) (core.attach config) :=
  attach_preserves config <| forall_mem_widget hwidget fun strategy args forest htouches =>
    htouches.trans (Forest.attach_touches widget strategy args forest)

/-- Configuring a core is work on its widget. -/
theorem configure_touches : Act.Preserves (Touches widget base) core.configure := by
  refine configure_preserves (forall_mem_widget hwidget ?_) (forall_mem_widget hwidget ?_)
  · intro name value forest htouches
    exact htouches.trans (setAttribute_touches widget name value forest)
  · intro sequence _ made _ forest htouches
    exact htouches.trans (invoke_spec widget made forest).1

private theorem runHook_touches : Act.Preserves (Touches widget base) core.runHook := by
  rw [runHook]
  split
  · exact .pure ()
  · refine requireWidget_preserves (forall_mem_widget hwidget (callAll_preserves core.id ?_))
    intro made _ forest htouches
    exact htouches.trans (invoke_spec widget made forest).1

/-- A call of an element is work on its widget. -/
theorem invoke_touches (made : Call) : Act.Preserves (Touches widget base) (core.invoke made) := by
  refine requireWidget_preserves (forall_mem_widget hwidget ?_)
  intro forest htouches
  rw [call, Act.perform_ofOperation]
  exact htouches.trans (invoke_spec widget made forest).1

end Work

section Build

variable {core after : Core} {forest left : Forest} {result : Except BuildError Unit}
variable {config : Config}

/-- The core once its widget is constructed inside a target. -/
def seated (core : Core) (widget : WidgetId) (target : Option WidgetId) : Core :=
  { core with widget := some widget, target }

/-- What is done with a core that has its widget: it is attached and configured, and counts as built
from then on. -/
def settle {σ : Type} [Toolkit σ] (config : Config) : Act (Work Core σ) Unit := do
  thenDo (·.attach config)
  thenDo (·.configure)
  markBuilt

/-- What attaching and configuring keep is kept while a core is settled, which stays what it is. -/
theorem settle_cases {kept : Forest → Prop} (hattach : Act.Preserves kept (core.attach config))
    (hconfigure : Act.Preserves kept core.configure) (hkept : kept forest)
    (hsettle : (settle config).perform ⟨core, forest⟩ = (result, ⟨after, left⟩)) :
    kept left ∧ (result = .ok () → after = { core with state := .built }) := by
  have hattached := hattach forest hkept
  rw [settle, Act.perform_bind, perform_thenDo] at hsettle
  rcases hattach : (core.attach config).perform forest with ⟨error | _, attached⟩
  · rw [hattach] at hsettle hattached
    cases hsettle
    exact ⟨hattached, nofun⟩
  · rw [hattach] at hsettle hattached
    have hconfigured := hconfigure attached hattached
    dsimp only at hsettle
    rw [Act.perform_bind, perform_thenDo] at hsettle
    rcases hconfigure : core.configure.perform attached with ⟨error | _, configured⟩
    · rw [hconfigure] at hsettle hconfigured
      cases hsettle
      exact ⟨hconfigured, nofun⟩
    · rw [hconfigure] at hsettle hconfigured
      cases hsettle
      exact ⟨hconfigured, fun _ => rfl⟩

/-- All that building a core can do: it fails and changes nothing, or it plants the widget that the
node declares, and settles the core. -/
theorem build_cases {target : Option WidgetId}
    (hbuild : (build config target).perform ⟨core, forest⟩ = (result, ⟨after, left⟩)) :
    ((∃ error, result = .error error) ∧ after = core ∧ left = forest) ∨
    ∃ widgetType, core.spec.widgetType = some widgetType ∧
      (∀ parent ∈ target, parent ∈ forest.live) ∧
      (settle config).perform ⟨core.seated forest.next target,
        forest.plant widgetType target core.spec.constructorArgs⟩ = (result, ⟨after, left⟩) := by
  rw [build, Act.perform_bind_ok (Act.perform_subject _)] at hbuild
  dsimp only at hbuild
  cases htype : core.spec.widgetType with
  | none =>
    rw [htype] at hbuild
    cases hbuild
    exact .inl ⟨⟨_, rfl⟩, rfl, rfl⟩
  | some widgetType =>
    rw [htype] at hbuild
    dsimp only at hbuild
    have hconstruct := perform_construct widgetType target core forest
    rcases construct_cases widgetType target core.spec.constructorArgs forest with
      ⟨error, hcase⟩ | ⟨-, hlive, hcase⟩
    · rw [hcase] at hconstruct
      rw [buildAs, Act.perform_bind_error hconstruct] at hbuild
      cases hbuild
      exact .inl ⟨⟨_, rfl⟩, rfl, rfl⟩
    · rw [hcase] at hconstruct
      rw [buildAs, Act.perform_bind_ok hconstruct] at hbuild
      exact .inr ⟨widgetType, rfl, hlive, hbuild⟩

end Build

end Core

namespace Element

section Work

variable {base : Forest} {widget : WidgetId} {core : Core}

/-- Work on the element's widget that leaves its core. -/
def WorksOn (core : Core) (widget : WidgetId) (base : Forest) (work : Work Element Forest) : Prop :=
  work.subject.core = core ∧ Touches widget base work.toolkit

private theorem onCore_worksOn {α : Type} {act : Core → Act Forest α}
    (hact : Act.Preserves (Touches widget base) (act core)) :
    Act.Preserves (WorksOn core widget base) (onCore (Core.thenDo act)) := by
  rintro ⟨⟨_, role⟩, forest⟩ ⟨rfl, htouches⟩
  rw [perform_onCore, Core.perform_thenDo]
  exact ⟨rfl, hact forest htouches⟩

variable (hwidget : core.widget = some widget)
include hwidget

private theorem addTabs_worksOn (found : List (String × WidgetId)) :
    Act.Preserves (WorksOn core widget base) (addTabs found) := by
  induction found with
  | nil => exact .pure ()
  | cons entry rest ih =>
    refine .bind (onCore_worksOn (Core.invoke_touches hwidget _)) fun _ => .bind ?_ fun _ => ih
    rintro ⟨⟨own, role⟩, forest⟩ ⟨hcore, htouches⟩
    obtain ⟨noted, hnoted⟩ := noteTab_eq entry.1 own role
    rw [Act.perform_setSubject, hnoted]
    exact ⟨hcore, htouches⟩

/-- What is done once the children of an element are built is work on its widget. -/
theorem postSubtree_worksOn (children : List NodeTree) (bound : String → Option WidgetId) :
    Act.Preserves (WorksOn core widget base) (postSubtree children bound) := by
  have hhook : Act.Preserves (WorksOn core widget base) (onCore (Core.thenDo Core.runHook)) :=
    onCore_worksOn (Core.runHook_touches hwidget)
  refine .bind (fun _ hworks => hworks) fun element => ?_
  cases element.role with
  | register tabs =>
    refine .bind (.ofExcept _) fun found => .bind (addTabs_worksOn hwidget found) fun _ => hhook
  | _ => exact .bind (.pure ()) fun _ => hhook

end Work

end Element

end WidgetTree
