import WidgetTree.Proofs.Rows.Content

namespace WidgetTree

/-- Whatever is asked of the forest keeps the property. Whatever is done with a collection and its
rows comes down to requests that the forest serves one after the other, so that it keeps what every
request keeps. -/
def Forest.Steady (kept : Forest → Prop) : Prop :=
  ∀ forest, kept forest → ∀ request : Forest.Request, kept (forest.serve request)

/-- The request that a forest serves when it carries out an operation. -/
def Query.request : Query → Forest.Request
  | construct widgetType parent args => .construct widgetType parent args
  | attach widget strategy args => .attach widget strategy args
  | setAttribute widget name value => .setAttribute widget name value
  | invoke widget call => .invoke widget call
  | destroy widget => .destroy widget
  | createVariable value => .createVariable value
  | readVariable handle => .readVariable handle
  | writeVariable handle value => .writeVariable handle value
  | registerCommand => .registerCommand

private theorem Query.perform_eq_serve (query : Query) (forest : Forest) :
    (query.perform forest).2 = forest.serve query.request := by
  cases query <;> rfl

/-- What work on every row keeps, work on the row at a place keeps. -/
theorem Collection.onRow_preserves {kept : Forest → Prop} (place : Nat)
    {act : Row → Act Forest Unit}
    (hact : ∀ row, Act.Preserves kept (act row)) :
    Act.Preserves (fun work : Work Collection Forest => kept work.toolkit) (onRow place act) := by
  refine .bind (fun _ hkept => hkept) fun collection => ?_
  split
  · exact .pure ()
  · next row _ => exact fun work hkept => hact row work.toolkit hkept

section Steady

variable {kept : Forest → Prop} (hsteady : Forest.Steady kept)
include hsteady

/-- A script is served request by request, whichever way it takes. -/
theorem Script.perform_steady {α : Type} (script : Script α) {forest : Forest}
    (hkept : kept forest) : kept (script.perform forest).2 := by
  induction script generalizing forest with
  | done result => exact hkept
  | ask query next ih =>
    have hserved := hsteady forest hkept query.request
    rw [← query.perform_eq_serve] at hserved
    exact ih _ hserved

namespace Core

private theorem attach_steady (core : Core) (config : Config) :
    Act.Preserves kept (core.attach config) :=
  attach_preserves config fun widget _ strategy args forest hkept =>
    hsteady forest hkept (.attach widget strategy args)

/-- Configuring a core is served request by request. -/
theorem configure_steady (core : Core) : Act.Preserves kept core.configure := by
  refine configure_preserves ?_ ?_
  · intro widget _ name value forest hkept
    exact hsteady forest hkept (.setAttribute widget name value)
  · intro widget _ _ _ made _ forest hkept
    exact hsteady forest hkept (.invoke widget made)

/-- A call of an element is served as one request, if at all. -/
theorem invoke_steady (core : Core) (made : Call) : Act.Preserves kept (core.invoke made) := by
  refine requireWidget_preserves fun widget _ forest hkept => ?_
  rw [call, Act.perform_ofOperation]
  exact hsteady forest hkept (.invoke widget made)

/-- The construction of a widget is served as one request. -/
theorem construct_steady (widgetType : String) (target : Option WidgetId) :
    Act.Preserves (fun work : Work Core Forest => kept work.toolkit)
      (construct widgetType target) := by
  rintro ⟨core, forest⟩ hkept
  have hserved := hsteady forest hkept (.construct widgetType target core.spec.constructorArgs)
  rw [Forest.serve] at hserved
  rw [perform_construct]
  rcases houtcome : Forest.construct widgetType target core.spec.constructorArgs forest with
    ⟨error | widget, after⟩
  · rw [houtcome] at hserved
    exact hserved
  · rw [houtcome] at hserved
    exact hserved

/-- Building a widget of a known type is served request by request. -/
theorem buildAs_steady (config : Config) (target : Option WidgetId) (widgetType : String) :
    Act.Preserves (fun work : Work Core Forest => kept work.toolkit)
      (buildAs config target widgetType) := by
  refine .bind (construct_steady hsteady widgetType target) fun _ => .bind ?_ fun _ => .bind ?_
    fun _ _ hkept => hkept
  · exact fun work hkept => attach_steady hsteady work.subject config work.toolkit hkept
  · exact fun work hkept => configure_steady hsteady work.subject work.toolkit hkept

/-- Building a core is served request by request. -/
theorem build_steady (config : Config) (target : Option WidgetId) :
    Act.Preserves (fun work : Work Core Forest => kept work.toolkit) (build config target) := by
  refine .bind (fun _ hkept => hkept) fun core => ?_
  cases core.spec.widgetType with
  | none => exact .ofExcept (.error _)
  | some widgetType => exact buildAs_steady hsteady config target widgetType

private theorem onOwn_build_steady (config : Config) (target : Option WidgetId) (core : Core) :
    Act.Preserves kept (Act.onOwn core (build config target)) :=
  fun forest hkept => build_steady hsteady config target ⟨core, forest⟩ hkept

end Core

/-- Taking a widget away is served as one request, if at all. -/
theorem Forest.without_steady {forest : Forest} (hkept : kept forest) (widget : Option WidgetId) :
    kept (forest.without widget) := by
  cases widget with
  | none => exact hkept
  | some widget => exact hsteady forest hkept (.destroy widget)

private theorem Core.onOwn_destroy_steady (core : Core) :
    Act.Preserves kept (Act.onOwn core destroy) := by
  intro forest hkept
  rw [Act.perform_onOwn_ok (perform_destroy core forest)]
  exact Forest.without_steady hsteady hkept core.widget

/-- Taking rows away is served request by request. -/
theorem Forest.withoutRows_steady {forest : Forest} (hkept : kept forest) (rows : List Row) :
    kept (rows.foldl withoutRow forest) := by
  induction rows generalizing forest with
  | nil => exact hkept
  | cons row rest ih =>
    exact ih (without_steady hsteady (without_steady hsteady hkept row.content.widget)
      row.container.widget)

namespace Collection

private theorem buildRow_steady (strategy : RowStrategy) (config : Config) (parent : WidgetId)
    (spec : RowSpec) : Act.Preserves kept (buildRow strategy config parent spec) := by
  refine .bind (Core.onOwn_build_steady hsteady config (some parent) _) ?_
  rintro ⟨_, container⟩
  refine .bind (.ofExcept _) fun holder => .bind ?_ fun made => ?_
  · exact fun forest hkept => (strategy.content spec).perform_steady hsteady hkept
  · refine .bind (Core.onOwn_build_steady hsteady config (some holder) _) fun outcome => ?_
    cases outcome with
    | ok built => exact .pure _
    | error error =>
      exact .bind (Core.onOwn_destroy_steady hsteady container) fun _ => .ofExcept (.error error)

private theorem addRowWith_steady (core : Core) (spec : RowSpec) :
    Act.Preserves (fun work : Work Collection Forest => kept work.toolkit)
      (addRowWith core spec) := by
  refine .bind (fun _ hkept => hkept) fun collection => .bind (.ofExcept _) fun strategy =>
    .bind (.ofExcept _) fun parent => .bind ?_ fun row => .bind (fun _ hkept => hkept) fun _ =>
      .pure row
  exact fun work hkept =>
    buildRow_steady hsteady strategy collection.config parent spec work.toolkit hkept

end Collection

/-- Whatever is asked of a collection or its rows is served request by request. -/
theorem RowRequest.act_steady (request : RowRequest) (core : Core) :
    Act.Preserves (fun work : Work Collection Forest => kept work.toolkit) (request.act core) := by
  cases request with
  | addRow label =>
    refine .bind (.bind (fun _ hkept => hkept) fun collection => ?_) fun _ => .pure ()
    exact Collection.addRowWith_steady hsteady core _
  | addRowWith spec =>
    exact .bind (Collection.addRowWith_steady hsteady core spec) fun _ => .pure ()
  | setChecked place checked =>
    refine Collection.onRow_preserves place fun row => ?_
    rw [Row.setChecked]
    split
    · exact .ofExcept (.error _)
    · next handle _ =>
      intro forest hkept
      rw [Act.perform_ofOperation]
      exact hsteady forest hkept (.writeVariable handle _)
  | call place made =>
    exact Collection.onRow_preserves place fun row =>
      .bind (Core.invoke_steady hsteady row.content made) fun _ => .pure ()
  | clear =>
    intro work hkept
    rw [act, Collection.perform_clear]
    exact Forest.withoutRows_steady hsteady hkept work.subject.rows

end Steady

end WidgetTree
