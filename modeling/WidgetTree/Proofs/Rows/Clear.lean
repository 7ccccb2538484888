import WidgetTree.Proofs.Forest.Clearing
import WidgetTree.Proofs.Rows.Served

namespace WidgetTree

open Forest

/-- The content of the row was constructed inside its container, and that inside another widget;
each is there if it is live. -/
def Row.Nested (forest : Forest) (row : Row) : Prop :=
  ∃ outer container content, row.container.widget = some container ∧
    row.content.widget = some content ∧ PlacedIn outer container forest ∧
    PlacedIn container content forest

/-- The widgets of the rows' containers. -/
def Element.containers (element : Element) : List WidgetId :=
  element.rows.filterMap (·.container.widget)

section Rows

variable {forest after : Forest} {row : Row} {rows : List Row}

private theorem Row.Nested.clears (hnested : row.Nested forest) {tops : List WidgetId}
    (hclears : Clears tops forest after) : row.Nested after := by
  obtain ⟨outer, container, content, hcontainer, hcontent, houter, hinner⟩ := hnested
  exact ⟨outer, container, content, hcontainer, hcontent, hclears.placedIn houter,
    hclears.placedIn hinner⟩

/-- Releasing a row takes away its container. -/
theorem Forest.withoutRow_clears (hsound : forest.Sound) (hnested : row.Nested forest) :
    Clears row.container.widget.toList forest (forest.withoutRow row) := by
  obtain ⟨outer, container, content, hcontainer, hcontent, -, hinner⟩ := hnested
  have hfirst := Clears.of_destroy hsound content
  have hsecond := Clears.of_destroy hfirst.sound container
  rw [withoutRow, hcontainer, hcontent]
  exact (hfirst.trans hsound hsecond).absorb hsound List.mem_cons_self hinner

/-- Releasing rows takes away their containers. -/
theorem Forest.withoutRows_clears (hsound : forest.Sound)
    (hnested : ∀ row ∈ rows, row.Nested forest) :
    Clears (rows.filterMap (·.container.widget)) forest (rows.foldl withoutRow forest) := by
  induction rows generalizing forest with
  | nil => exact .of_gone hsound (by simp)
  | cons row rest ih =>
    have hfirst := withoutRow_clears hsound (hnested row List.mem_cons_self)
    have hrest := ih hfirst.sound fun other hother =>
      (hnested other (List.mem_cons_of_mem _ hother)).clears hfirst
    have htops : (row :: rest).filterMap (·.container.widget) =
        row.container.widget.toList ++ rest.filterMap (·.container.widget) := by
      cases hcontainer : row.container.widget with
      | none => simp [hcontainer]
      | some container => simp [hcontainer]
    rw [htops]
    exact hfirst.trans hsound hrest

/-- A forest in which the widgets of rows are where they were constructed stays one. -/
theorem steady_nested (rows : List Row) :
    Steady fun forest => forest.Sound ∧ ∀ row ∈ rows, row.Nested forest := by
  rintro forest ⟨hsound, hnested⟩ request
  refine ⟨hsound.serve request, fun row hrow => ?_⟩
  obtain ⟨outer, container, content, hcontainer, hcontent, houter, hinner⟩ := hnested row hrow
  exact ⟨outer, container, content, hcontainer, hcontent, houter.serve hsound request,
    hinner.serve hsound request⟩

/-- A widget that was built inside another is inside it from then on. -/
theorem Core.placedIn_of_build {config : Config} {spec : NodeSpec} {parent : WidgetId} {core : Core}
    (hsound : forest.Sound)
    (hbuild : (build config (some parent)).perform ⟨.ofSpec spec, forest⟩ =
      (.ok (), ⟨core, after⟩)) :
    ∃ widget, core.widget = some widget ∧ after.Sound ∧ PlacedIn parent widget after := by
  rcases buildIn_cases hbuild with ⟨⟨error, herror⟩, -⟩ | ⟨widgetType, hparent, htouches, hcore⟩
  · cases herror
  · have hplanted : (forest.plant widgetType (some parent) spec.constructorArgs).Sound := by
      refine hsound.plant widgetType _ _ ?_
      rintro outer ⟨⟩
      exact hparent
    have hlink : after.link? forest.next = some (some parent) := by
      rw [htouches.link, link?_plant _ _ _ hsound, if_pos rfl]
    have hafter := htouches.sound hplanted
    exact ⟨forest.next, by rw [hcore rfl, builtIn], hafter, .of_link? hafter hlink⟩

/-- A forest where a widget is inside the one it was constructed in stays one. -/
theorem steady_placedIn (outer widget : WidgetId) :
    Steady fun forest => forest.Sound ∧ PlacedIn outer widget forest :=
  fun _ hkept request => ⟨hkept.1.serve request, hkept.2.serve hkept.1 request⟩

/-- A row that was just built has its content inside its container, whatever its strategy has done
on the way. -/
theorem nested_of_buildRow {strategy : RowStrategy} {config : Config} {parent : WidgetId}
    {spec : RowSpec} (hsound : forest.Sound)
    (hrow : (Collection.buildRow strategy config parent spec).perform forest = (.ok row, after)) :
    row.Nested after := by
  obtain ⟨housed, holder, made, held, hcontainer, hholder, hmade, hcontent⟩ :=
    Collection.parts_of_buildRow hrow
  obtain ⟨container, hwidget, hstanding⟩ := Core.placedIn_of_build hsound hcontainer
  obtain rfl := Option.some.inj (hholder.symm.trans hwidget)
  have hsteady := steady_placedIn parent holder
  have hheld := (strategy.content spec).perform_steady hsteady hstanding
  rw [hmade] at hheld
  obtain ⟨content, hinner, -, hinside⟩ := Core.placedIn_of_build hheld.1 hcontent
  have houter := Core.build_steady hsteady config (some holder) ⟨.ofSpec made.node, held⟩ hheld
  rw [hcontent] at houter
  exact ⟨parent, holder, content, hwidget, hinner, houter.2, hinside⟩

end Rows

/-- The rows after a request are those from before, or one that was just made. -/
theorem RowRequest.rows_nested (request : RowRequest) {core : Core}
    {collection after : Collection} {forest left : Forest} {result : Except BuildError Unit}
    (hsound : forest.Sound)
    (hact : (request.act core).perform ⟨collection, forest⟩ = (result, ⟨after, left⟩)) :
    ∀ row ∈ after.rows, row ∈ collection.rows ∨ row.Nested left := by
  have hadded {spec : RowSpec} (hasks : request.spec? core collection.rows = some spec) :
      ∀ row ∈ after.rows, row ∈ collection.rows ∨ row.Nested left := by
    rw [perform_act_of_asks hasks] at hact
    rcases houtcome : (Collection.addRowWith core spec).perform ⟨collection, forest⟩ with
      ⟨outcome, other, built⟩
    rw [houtcome] at hact
    cases hact
    rcases Collection.addRowWith_builds houtcome with
      ⟨-, hsame⟩ | ⟨strategy, parent, outcome, made, -, -, hrow, hend⟩
    · cases hsame
      exact fun row hrow => .inl hrow
    · rcases hend with ⟨_, -, -, hsame⟩ | ⟨row, rfl, -, hjoined⟩
      · cases hsame
        exact fun row hrow => .inl hrow
      · cases hjoined
        intro other hother
        rcases List.mem_append.mp hother with hold | hnew
        · exact .inl hold
        · obtain rfl := List.mem_singleton.mp hnew
          exact .inr (nested_of_buildRow hsound hrow)
  cases request with
  | addRow | addRowWith => exact hadded rfl
  | clear =>
    rw [act, Collection.perform_clear] at hact
    cases hact
    simp
  | setChecked | call =>
    obtain ⟨rfl, -⟩ := Collection.perform_onRow_cases (congrArg Prod.snd hact)
    exact fun row hmem => .inl hmem

/-- What may happen to a collection and to the toolkit that its widgets are in. -/
inductive CollectionEvent
  | build (config : Config) (target : Option WidgetId)
  | asked (request : RowRequest)
  | destroyed
  /-- Somebody else changes the core of the element in some way. -/
  | changed (core : Core)
  /-- Somebody else asks something of the toolkit. -/
  | served (request : Forest.Request)

/-- The element and the forest after an event, whether or not it succeeds. -/
def CollectionEvent.after (work : Work Element Forest) : CollectionEvent → Work Element Forest
  | build config target => ((Element.build config target).perform work).2
  | asked request => ((Element.onRows request.act).perform work).2
  | destroyed => (Element.destroy.perform work).2
  | changed core => { work with subject := { work.subject with core } }
  | served request => { work with toolkit := work.toolkit.serve request }

/-- The element is a collection in a forest where its rows are nested. -/
structure Collected (work : Work Element Forest) : Prop where
  collection : ∃ collection, work.subject.collection? = some collection
  sound : work.toolkit.Sound
  nested : ∀ row ∈ work.subject.rows, row.Nested work.toolkit

namespace Collected

variable {work : Work Element Forest}

/-- Every event leaves a collection whose rows are nested. -/
theorem after (hcollected : Collected work) (event : CollectionEvent) :
    Collected (event.after work) := by
  obtain ⟨⟨core, role⟩, forest⟩ := work
  obtain ⟨⟨collection, hrole⟩, hsound, hnested⟩ := hcollected
  cases role with
  | generic | window | button | checkbox | register => cases hrole
  | collection collection =>
    have hkept : forest.Sound ∧ ∀ row ∈ collection.rows, row.Nested forest := ⟨hsound, hnested⟩
    cases event with
    | build config target =>
      obtain ⟨hleft, hrows⟩ := Core.build_steady (steady_nested collection.rows) config target
        ⟨core, forest⟩ hkept
      exact ⟨⟨{ collection with config }, rfl⟩, hleft, hrows⟩
    | asked request =>
      have hserved := RowRequest.act_steady (steady_nested collection.rows) request core
        ⟨collection, forest⟩ hkept
      rcases hact : (request.act core).perform ⟨collection, forest⟩ with ⟨result, after, left⟩
      have hrows := request.rows_nested hsound hact
      rw [hact] at hserved
      rw [CollectionEvent.after, Element.perform_onRows, hact]
      refine ⟨⟨after, rfl⟩, hserved.1, fun row hrow => ?_⟩
      exact (hrows row hrow).elim (hserved.2 row) id
    | destroyed =>
      rw [CollectionEvent.after, Element.perform_destroy]
      have hcleared := withoutRows_steady (steady_nested []) ⟨hsound, by simp⟩ collection.rows
      have hleft := without_steady (steady_nested []) hcleared core.widget
      exact ⟨⟨{ collection with rows := [] }, rfl⟩, hleft.1, hleft.2⟩
    | changed other => exact ⟨⟨collection, rfl⟩, hsound, hnested⟩
    | served request =>
      obtain ⟨hleft, hrows⟩ := steady_nested collection.rows forest hkept request
      exact ⟨⟨collection, rfl⟩, hleft, hrows⟩

private theorem foldl (hcollected : Collected work) (events : List CollectionEvent) :
    Collected (events.foldl CollectionEvent.after work) := by
  induction events generalizing work with
  | nil => exact hcollected
  | cons event rest ih => exact ih (hcollected.after event)

end Collected

namespace Element

/-- Clears the rows of the element, if it is a collection. -/
def clearRows {σ : Type} [Toolkit σ] : Act (Work Element σ) Unit := onRows fun _ => Collection.clear

private theorem perform_clearRows (core : Core) (collection : Collection) (forest : Forest) :
    clearRows.perform ⟨⟨core, .collection collection⟩, forest⟩ =
      (.ok (), ⟨⟨core, .collection { collection with rows := [] }⟩,
        collection.rows.foldl withoutRow forest⟩) := by
  rw [clearRows, perform_onRows, Collection.perform_clear]

/-- However a collection was used before, and whatever has become of its widgets, clearing it
succeeds, leaves it without rows, and takes away just those containers that are still there, each
with what is inside it; clearing it again changes nothing. Destroying it always succeeds as well: it
does the same, and then destroys the collection's widget, if that is still there. -/
theorem clear_takes_containers {forest : Forest} (hreachable : forest.Reachable) (spec : NodeSpec)
    (resolver : RowResolver) (events : List CollectionEvent) :
    let work := events.foldl CollectionEvent.after ⟨.ofSpec (.collection { resolver }) spec, forest⟩
    let containers := work.subject.containers
    ∃ cleared, clearRows.perform work = (.ok (), cleared) ∧
      (cleared.subject.core = work.subject.core ∧ cleared.subject.rows = []) ∧
      Clears containers work.toolkit cleared.toolkit ∧
      cleared.toolkit.roots = work.toolkit.roots ∧
      clearRows.perform cleared = (.ok (), cleared) ∧
      ∃ destroyed, destroy.perform work = (.ok (), destroyed) ∧
        (destroyed.subject.core = work.subject.core.released ∧ destroyed.subject.rows = []) ∧
        destroyed.toolkit = cleared.toolkit.without work.subject.widget ∧
        Clears (containers ++ work.subject.widget.toList) work.toolkit destroyed.toolkit := by
  intro work containers
  have hstart : Collected ⟨.ofSpec (.collection { resolver }) spec, forest⟩ :=
    ⟨⟨{ resolver }, rfl⟩, hreachable.sound, by simp [rows, ofSpec, collection?]⟩
  have hcollected : Collected work := hstart.foldl events
  obtain ⟨⟨core, role⟩, toolkit⟩ := work
  obtain ⟨⟨collection, hrole⟩, hsound, hnested⟩ := hcollected
  cases role with
  | generic | window | button | checkbox | register => cases hrole
  | collection collection =>
    have hclears : Clears containers toolkit (collection.rows.foldl withoutRow toolkit) :=
      withoutRows_clears hsound hnested
    have hroots := hclears.roots_eq hsound fun top htop => by
      obtain ⟨row, hrow, hcontainer⟩ := List.mem_filterMap.mp htop
      obtain ⟨outer, container, content, hwidget, -, houter, -⟩ := hnested row hrow
      obtain rfl := Option.some.inj (hwidget.symm.trans hcontainer)
      exact ⟨outer, houter⟩
    have hown : Clears core.widget.toList (collection.rows.foldl withoutRow toolkit)
        ((collection.rows.foldl withoutRow toolkit).without core.widget) := by
      cases core.widget with
      | none => exact .of_gone hclears.sound (by simp)
      | some widget => exact .of_destroy hclears.sound widget
    exact ⟨_, perform_clearRows core collection toolkit, ⟨rfl, rfl⟩, hclears, hroots,
      perform_clearRows core { collection with rows := [] } _, _, perform_destroy _ toolkit,
      ⟨rfl, rfl⟩, rfl, hclears.trans hsound hown⟩

/-- Of three rows of a list, one has lost its content, another its container. What is left of them
goes when the list is cleared, and the window and the list itself stay. -/
theorem broken_list_cleared :
    let forest := empty.serveAll [.construct "Tk" none []]
    let spec : NodeSpec := { id := "list", kind := some "ListBox", widgetType := some "Frame" }
    let filling : List CollectionEvent :=
      [.build {} (some ⟨1⟩), .asked (.addRow "first"), .asked (.addRow "second"),
        .asked (.addRow "third")]
    let breaking : List CollectionEvent := [.served (.destroy ⟨4⟩), .served (.destroy ⟨5⟩)]
    let work := (filling ++ breaking).foldl CollectionEvent.after
      ⟨.ofSpec (.collection { resolver := .standard }) spec, forest⟩
    work.subject.containers = [⟨3⟩, ⟨5⟩, ⟨7⟩] ∧
      ⟨4⟩ ∉ work.toolkit.live ∧ ⟨6⟩ ∉ work.toolkit.live ∧ ⟨8⟩ ∈ work.toolkit.live ∧
      ∃ cleared, clearRows.perform work = (.ok (), cleared) ∧ cleared.subject.rows = [] ∧
        ⟨3⟩ ∉ cleared.toolkit.live ∧ ⟨8⟩ ∉ cleared.toolkit.live ∧ ⟨2⟩ ∈ cleared.toolkit.live ∧
        cleared.toolkit.children ⟨2⟩ = [] := by
  intro forest spec filling breaking work
  have hreachable : forest.Reachable := ⟨_, rfl⟩
  let filled := filling.foldl CollectionEvent.after
    ⟨.ofSpec (.collection { resolver := .standard }) spec, forest⟩
  have hfilled : Collected filled :=
    Collected.foldl ⟨⟨{}, rfl⟩, hreachable.sound, by simp [rows, ofSpec, collection?]⟩ filling
  have hbreaks (start : Work Element Forest) (hsound : start.toolkit.Sound) :
      Clears [⟨4⟩, ⟨5⟩] start.toolkit (breaking.foldl CollectionEvent.after start).toolkit :=
    have hfirst := Clears.of_destroy hsound ⟨4⟩
    hfirst.trans hsound (.of_destroy hfirst.sound ⟨5⟩)
  have hbroken := hbreaks filled hfilled.sound
  rw [← List.foldl_append] at hbroken
  obtain ⟨cleared, hcleared, ⟨-, hrows⟩, hclears, -⟩ :=
    clear_takes_containers hreachable spec .standard (filling ++ breaking)
  have hcontainers : work.subject.containers = [⟨3⟩, ⟨5⟩, ⟨7⟩] := by
    subst work breaking filling spec forest
    decide +kernel
  rw [hcontainers] at hclears
  have hboth := hbroken.trans hfilled.sound hclears
  have hstays : ⟨2⟩ ∈ cleared.toolkit.live := by
    rw [hboth.live]
    subst filled filling spec forest
    decide +kernel
  refine ⟨hcontainers, ?_, ?_, ?_, cleared, hcleared, hrows, ?_, ?_, hstays, ?_⟩
  · rw [hbroken.live]
    simp
  · rw [hbroken.live]
    subst filled filling spec forest
    decide +kernel
  · rw [hbroken.live]
    subst filled filling spec forest
    decide +kernel
  · rw [hclears.live]
    simp
  · rw [hboth.live]
    subst filled filling spec forest
    decide +kernel
  · rw [hboth.children _ hstays]
    subst filled filling spec forest
    decide +kernel

end Element

end WidgetTree
