import WidgetTree.Proofs.Build.Element
import WidgetTree.Proofs.Rows.Row

namespace WidgetTree

section Requests

variable {σ : Type} [Toolkit σ]

/-- What can be asked of a collection and its rows. -/
inductive RowRequest
  | addRow (label : String)
  | addRowWith (spec : RowSpec)
  /-- Checks or unchecks the row at a place. -/
  | setChecked (place : Nat) (checked : Bool)
  /-- Calls a method of the content of the row at a place. -/
  | call (place : Nat) (made : Call)
  | clear

/-- An act on the row at a place, if there is one. -/
def Collection.onRow (place : Nat) (act : Row → Act σ Unit) : Act (Work Collection σ) Unit := do
  let collection ← Act.subject
  match collection.rows[place]? with
  | none => pure ()
  | some row => Act.inToolkit (act row)

/-- Serves a request to a collection with this core. -/
def RowRequest.act (request : RowRequest) (core : Core) : Act (Work Collection σ) Unit :=
  match request with
  | addRow label => do
    let _ ← Collection.addRow core label
  | addRowWith spec => do
    let _ ← Collection.addRowWith core spec
  | setChecked place checked => Collection.onRow place (·.setChecked checked)
  | call place made => Collection.onRow place fun row => do
    let _ ← row.content.invoke made
  | clear => Collection.clear

/-- The row that a request asks for, if it asks for one. A label gets an id of its own. -/
def RowRequest.spec? (request : RowRequest) (core : Core) (rows : List Row) : Option RowSpec :=
  match request with
  | addRow label => some { id := Collection.rowId core rows label, text := label }
  | addRowWith spec => some spec
  | setChecked .. | call .. | clear => none

namespace Element

/-- The rows of the element; none if it is not a collection. -/
def rows (element : Element) : List Row := (element.collection?.map Collection.rows).getD []

/-- An act on the rows of the element, if it is a collection. -/
def onRows (act : Core → Act (Work Collection σ) Unit) : Act (Work Element σ) Unit := do
  let element ← Act.subject
  match element.collection? with
  | none => pure ()
  | some collection => Act.onPart (fun _ => collection) putCollection (act element.core)

/-- The element after its widget and its rows were released. -/
def released (element : Element) : Element where
  core := element.core.released
  role := match element.role with
    | .collection collection => .collection { collection with rows := [] }
    | role => role

end Element

/-- A request to the rows of one element. -/
structure RowOrder where
  element : ElementRef
  request : RowRequest

def RowOrder.act (order : RowOrder) : Act (Site σ) Unit :=
  Site.onElement order.element (Element.onRows order.request.act)

/-- The site after several orders, carried out one after the other, whether or not they succeed. -/
def Site.tend (site : Site σ) (orders : List RowOrder) : Site σ :=
  orders.foldl (fun site order => (order.act.perform site).2) site

end Requests

namespace Collection

variable {forest : Forest} {core : Core} {collection : Collection}

/-- A label asks for a row with an id of its own. -/
theorem perform_addRow (core : Core) (label : String) (collection : Collection) (forest : Forest) :
    (addRow core label).perform ⟨collection, forest⟩ =
      (addRowWith core { id := rowId core collection.rows label, text := label }).perform
        ⟨collection, forest⟩ := by
  rw [addRow]
  exact Act.perform_bind_ok (Act.perform_subject _) _

/-- A collection with a live widget and a strategy for its kind gets its row. -/
theorem perform_addRowWith_of_live {strategy : RowStrategy} {widgetType : String}
    {parent : WidgetId} (hsound : forest.Sound)
    (hresolve : collection.resolver.resolve (kind core) = .ok strategy)
    (hplain : strategy.Plain widgetType) (hwidget : core.widget = some parent)
    (hparent : parent ∈ forest.live) (spec : RowSpec) :
    (addRowWith core spec).perform ⟨collection, forest⟩ =
      (.ok (forest.makeRow strategy widgetType parent spec).1,
        ⟨{ collection with
            rows := collection.rows ++ [(forest.makeRow strategy widgetType parent spec).1] },
          (forest.makeRow strategy widgetType parent spec).2⟩) := by
  have hbuild := perform_buildRow_of_live hsound hplain hparent collection.config spec
  rw [addRowWith, Act.perform_bind_ok (Act.perform_subject _), Act.perform_bind,
    Act.perform_ofExcept, hresolve]
  dsimp only
  rw [Act.perform_bind_ok (Core.perform_requireWidget hwidget _), Act.perform_bind,
    Act.perform_inToolkit, hbuild]
  rfl

/-- All that adding a row can do where rows are plain: it fails and changes nothing, or the
collection has a live widget and a strategy for its kind, and gets its row. -/
theorem addRowWith_cases (hsound : forest.Sound)
    (hplain : ∀ strategy, collection.resolver.resolve (kind core) = .ok strategy →
      ∃ widgetType, strategy.Plain widgetType) (spec : RowSpec) :
    (∃ error, (addRowWith core spec).perform ⟨collection, forest⟩ =
      (.error error, ⟨collection, forest⟩)) ∨
    ∃ strategy widgetType parent, collection.resolver.resolve (kind core) = .ok strategy ∧
      strategy.Plain widgetType ∧ core.widget = some parent ∧ parent ∈ forest.live ∧
      (addRowWith core spec).perform ⟨collection, forest⟩ =
        (.ok (forest.makeRow strategy widgetType parent spec).1,
          ⟨{ collection with
              rows := collection.rows ++ [(forest.makeRow strategy widgetType parent spec).1] },
            (forest.makeRow strategy widgetType parent spec).2⟩) := by
  rcases hadd : (addRowWith core spec).perform ⟨collection, forest⟩ with ⟨result, after⟩
  rcases addRowWith_builds hadd with
    ⟨⟨error, rfl⟩, rfl⟩ | ⟨strategy, parent, outcome, built, hresolve, hwidget, hrow, hend⟩
  · exact .inl ⟨error, rfl⟩
  · obtain ⟨widgetType, hplain⟩ := hplain strategy hresolve
    by_cases hparent : parent ∈ forest.live
    · rw [← hadd]
      exact .inr ⟨strategy, widgetType, parent, hresolve, hplain, hwidget, hparent,
        perform_addRowWith_of_live hsound hresolve hplain hwidget hparent spec⟩
    · obtain ⟨error, hrefused⟩ :=
        @perform_buildRow_of_dead forest strategy parent hparent collection.config spec
      obtain ⟨rfl, rfl⟩ := Prod.mk.inj (hrefused.symm.trans hrow)
      rcases hend with ⟨_, -, rfl, rfl⟩ | ⟨row, hrow, -⟩
      · exact .inl ⟨_, rfl⟩
      · cases hrow

private theorem widgetType_of_plain_checkbox {widgetType : String}
    (hplain : RowStrategy.checkbox.Plain widgetType) : widgetType = "Checkbutton" := by
  have hyields := Script.yields_perform (RowStrategy.checkbox.content { id := "", text := "" })
    Forest.empty
  exact (Option.some.inj (hplain.yields _ _ hyields).widgetType).symm

/-- All that adding a row can do where rows are check buttons: it fails and changes nothing, or the
row is made inside the live widget of the collection. -/
theorem addRowWith_checkbox_cases (hsound : forest.Sound)
    (hresolve : collection.resolver.resolve (kind core) = .ok .checkbox) (spec : RowSpec) :
    (∃ error, (addRowWith core spec).perform ⟨collection, forest⟩ =
      (.error error, ⟨collection, forest⟩)) ∨
    ∃ parent ∈ forest.live, (addRowWith core spec).perform ⟨collection, forest⟩ =
      (.ok (forest.makeRow .checkbox "Checkbutton" parent spec).1,
        ⟨{ collection with
            rows := collection.rows ++
              [(forest.makeRow .checkbox "Checkbutton" parent spec).1] },
          (forest.makeRow .checkbox "Checkbutton" parent spec).2⟩) := by
  have hplain : ∀ strategy, collection.resolver.resolve (kind core) = .ok strategy →
      ∃ widgetType, strategy.Plain widgetType := by
    intro strategy hstrategy
    obtain rfl := Except.ok.inj (hresolve.symm.trans hstrategy)
    exact ⟨"Checkbutton", RowStrategy.plain_checkbox⟩
  rcases addRowWith_cases hsound hplain spec with
    hrefused | ⟨strategy, widgetType, parent, hstrategy, hcontent, -, hlive, hmade⟩
  · exact .inl hrefused
  · obtain rfl := Except.ok.inj (hresolve.symm.trans hstrategy)
    obtain rfl := widgetType_of_plain_checkbox hcontent
    exact .inr ⟨parent, hlive, hmade⟩

/-- Clearing a collection always succeeds in a forest, and releases its rows. -/
theorem perform_clear (collection : Collection) (forest : Forest) :
    clear.perform ⟨collection, forest⟩ =
      (.ok (),
        ⟨{ collection with rows := [] }, collection.rows.foldl Forest.withoutRow forest⟩) := by
  rw [clear, Act.perform_bind_ok (Act.perform_subject _),
    Act.perform_bind_ok (Act.perform_setSubject _ _), Act.perform_inToolkit, perform_releaseRows]

/-- Where there is no row, nothing is done. -/
theorem perform_onRow_none {place : Nat} (hrow : collection.rows[place]? = none)
    (act : Row → Act Forest Unit) :
    (onRow place act).perform ⟨collection, forest⟩ = (.ok (), ⟨collection, forest⟩) := by
  rw [onRow, Act.perform_bind_ok (Act.perform_subject _)]
  simp only [hrow]
  rfl

/-- Work on the row at a place is work on that row. -/
theorem perform_onRow_some {place : Nat} {row : Row} (hrow : collection.rows[place]? = some row)
    (act : Row → Act Forest Unit) :
    (onRow place act).perform ⟨collection, forest⟩ =
      (((act row).perform forest).1, ⟨collection, ((act row).perform forest).2⟩) := by
  rw [onRow, Act.perform_bind_ok (Act.perform_subject _)]
  simp only [hrow]
  rfl

/-- Work on the row at a place leaves the rows. Nothing else happens if there is no such row, and
otherwise what the work on that row does. -/
theorem perform_onRow_cases {place : Nat} {act : Row → Act Forest Unit} {after : Collection}
    {left : Forest} (hact : ((onRow place act).perform ⟨collection, forest⟩).2 = ⟨after, left⟩) :
    after = collection ∧
      (left = forest ∨ ∃ row ∈ collection.rows, ((act row).perform forest).2 = left) := by
  cases hrow : collection.rows[place]? with
  | none =>
    rw [perform_onRow_none hrow] at hact
    cases hact
    exact ⟨rfl, .inl rfl⟩
  | some row =>
    rw [perform_onRow_some hrow] at hact
    cases hact
    exact ⟨rfl, .inr ⟨row, List.mem_of_getElem? hrow, rfl⟩⟩

end Collection

/-- Checking a row is a matter of variables. -/
theorem Row.setChecked_serves (row : Row) (checked : Bool) (forest : Forest) (widget : WidgetId) :
    Forest.Serves widget forest ((row.setChecked checked).perform forest).2 := by
  rw [setChecked]
  cases row.state with
  | none => exact .refl widget forest
  | some handle =>
    dsimp only
    rw [Act.perform_ofOperation]
    exact Forest.writeVariable_serves widget handle _ forest

/-- Both ways of asking for a row add the row that is asked for. -/
theorem RowRequest.perform_act_of_asks {core : Core} {collection : Collection}
    {request : RowRequest} {spec : RowSpec}
    (hasks : request.spec? core collection.rows = some spec) {forest : Forest} :
    (request.act core).perform ⟨collection, forest⟩ =
      (((Collection.addRowWith core spec).perform ⟨collection, forest⟩).1.map fun _ => (),
        ((Collection.addRowWith core spec).perform ⟨collection, forest⟩).2) := by
  cases request with
  | addRow label =>
    obtain rfl := Option.some.inj hasks
    rw [act, Act.perform_discard, Collection.perform_addRow]
  | addRowWith spec =>
    obtain rfl := Option.some.inj hasks
    rw [act, Act.perform_discard]
  | setChecked | call | clear => cases hasks

/-- A row that was asked for has joined the collection, which has a live widget, or nothing was
done. -/
theorem RowRequest.act_of_asks {core : Core} {collection after : Collection}
    {forest left : Forest} (hsound : forest.Sound) (hstandard : collection.resolver = .standard)
    {request : RowRequest}
    (hact : ((request.act core).perform ⟨collection, forest⟩).2 = ⟨after, left⟩)
    {spec : RowSpec} (hasks : request.spec? core collection.rows = some spec) :
    (⟨collection, forest⟩ : Work Collection Forest) = ⟨after, left⟩ ∨
    ∃ strategy widgetType parent, strategy.Modest ∧ core.widget = some parent ∧
      parent ∈ forest.live ∧ after = { collection with
        rows := collection.rows ++ [(forest.makeRow strategy widgetType parent spec).1] } ∧
      left = (forest.makeRow strategy widgetType parent spec).2 := by
  have hplain : ∀ strategy, collection.resolver.resolve (Collection.kind core) = .ok strategy →
      ∃ widgetType, strategy.Plain widgetType := by
    rw [hstandard]
    exact fun strategy hresolve => RowResolver.plain_of_resolve hresolve
  rw [perform_act_of_asks hasks] at hact
  rcases Collection.addRowWith_cases hsound hplain spec with
    ⟨error, hrefused⟩ | ⟨strategy, widgetType, parent, -, hmadePlain, hwidget, hparent, hmade⟩
  · rw [hrefused] at hact
    exact .inl hact
  · rw [hmade] at hact
    obtain ⟨rfl, rfl⟩ := Work.mk.inj hact
    exact .inr ⟨strategy, widgetType, parent, hmadePlain.toModest, hwidget, hparent, rfl, rfl⟩

/-- All that a request can do to a collection and the forest: a row is made inside the collection's
widget, or the rows are released, or there is work on the content of a row, or nothing happens but
to variables. -/
theorem RowRequest.act_cases (request : RowRequest) {core : Core} {collection after : Collection}
    {forest left : Forest} (hsound : forest.Sound) (hstandard : collection.resolver = .standard)
    (hact : ((request.act core).perform ⟨collection, forest⟩).2 = ⟨after, left⟩) :
    (∃ strategy widgetType parent spec, strategy.Modest ∧ core.widget = some parent ∧
      parent ∈ forest.live ∧ after = { collection with
        rows := collection.rows ++ [(forest.makeRow strategy widgetType parent spec).1] } ∧
      left = (forest.makeRow strategy widgetType parent spec).2) ∨
    (after = { collection with rows := [] } ∧
      left = collection.rows.foldl Forest.withoutRow forest) ∨
    (after = collection ∧ ∃ row ∈ collection.rows, ∃ widget ∈ row.content.widget,
      Forest.Touches widget forest left) ∨
    (after = collection ∧ ∀ widget, Forest.Touches widget forest left) := by
  have hkept (hnone : (⟨collection, forest⟩ : Work Collection Forest) = ⟨after, left⟩) :
      after = collection ∧ ∀ widget, Forest.Touches widget forest left := by
    cases hnone
    exact ⟨rfl, fun widget => .refl widget forest⟩
  cases request with
  | addRow | addRowWith =>
    rcases act_of_asks hsound hstandard hact rfl with hnone | ⟨strategy, widgetType, parent, hmade⟩
    · exact .inr (.inr (.inr (hkept hnone)))
    · exact .inl ⟨strategy, widgetType, parent, _, hmade⟩
  | clear =>
    rw [act, Collection.perform_clear] at hact
    obtain ⟨rfl, rfl⟩ := Work.mk.inj hact
    exact .inr (.inl ⟨rfl, rfl⟩)
  | setChecked place checked =>
    obtain ⟨rfl, rfl | ⟨row, -, rfl⟩⟩ := Collection.perform_onRow_cases hact
    · exact .inr (.inr (.inr (hkept rfl)))
    · exact .inr (.inr (.inr
        ⟨rfl, fun widget => (row.setChecked_serves checked forest widget).touches⟩))
  | call place made =>
    obtain ⟨rfl, rfl | ⟨row, hrow, hmade⟩⟩ := Collection.perform_onRow_cases hact
    · exact .inr (.inr (.inr (hkept rfl)))
    · rw [Act.perform_discard] at hmade
      cases hwidget : row.content.widget with
      | none =>
        rw [Core.perform_invoke_none hwidget] at hmade
        cases hmade
        exact .inr (.inr (.inr (hkept rfl)))
      | some widget =>
        rw [Core.perform_invoke hwidget] at hmade
        cases hmade
        have htouches := (Forest.invoke_spec widget made forest).1
        exact .inr (.inr (.inl ⟨rfl, row, hrow, widget, hwidget, htouches⟩))

namespace Element

/-- Work on the rows of a collection leaves the core of its element. -/
theorem perform_onRows {σ : Type} [Toolkit σ] (act : Core → Act (Work Collection σ) Unit)
    (core : Core) (collection : Collection) (toolkit : σ) :
    (onRows act).perform ⟨⟨core, .collection collection⟩, toolkit⟩ =
      let done := (act core).perform ⟨collection, toolkit⟩
      (done.1, ⟨⟨core, .collection done.2.subject⟩, done.2.toolkit⟩) := rfl

/-- Releasing an element always succeeds in a forest: its rows go first, and then its widget. -/
theorem perform_destroy (element : Element) (forest : Forest) :
    destroy.perform ⟨element, forest⟩ =
      (.ok (), ⟨element.released,
        (element.rows.foldl Forest.withoutRow forest).without element.widget⟩) := by
  obtain ⟨core, role⟩ := element
  rw [destroy, Act.perform_bind_ok (Act.perform_subject _)]
  cases role with
  | collection collection =>
    dsimp only
    rw [Act.perform_bind, Act.perform_attempt, Act.perform_onPart, Collection.perform_clear]
    dsimp only
    rw [Act.perform_bind, Act.perform_attempt, putCollection, perform_onCore, Core.perform_destroy]
    rfl
  | generic | window | button | checkbox | register =>
    dsimp only
    rw [perform_onCore, Core.perform_destroy]
    rfl

end Element

end WidgetTree
