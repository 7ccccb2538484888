import WidgetTree.Proofs.Build.Place
import WidgetTree.Proofs.Build.Trace

namespace WidgetTree

namespace Forest

/-- Work on a widget that leaves of its record what its node asks for. -/
structure Spares (widget : WidgetId) (before after : Forest) : Prop where
  touches : Touches widget before after
  uncalled : (after.record? widget).map Record.uncalled =
    (before.record? widget).map Record.uncalled

namespace Spares

variable {widget : WidgetId} {first second third : Forest}

private theorem refl (widget : WidgetId) (forest : Forest) : Spares widget forest forest :=
  ⟨.refl widget forest, rfl⟩

private theorem trans (hfirst : Spares widget first second) (hsecond : Spares widget second third) :
    Spares widget first third :=
  ⟨hfirst.touches.trans hsecond.touches, hsecond.uncalled.trans hfirst.uncalled⟩

end Spares

end Forest

namespace Deed

/-- The marks that deeds leave, one after the other. -/
def marks (deeds : List Deed) (record : Record) : Record :=
  deeds.foldl (fun record deed => deed.mark record) record

private theorem marks_append (first second : List Deed) (record : Record) :
    marks (first ++ second) record = marks second (marks first record) := List.foldl_append

private theorem marks_calls (calls : List Call) (record : Record) :
    marks (calls.map Deed.call) record = record := by
  induction calls with
  | nil => rfl
  | cons made rest ih => exact ih

private theorem marks_assignments (attributes : Fields Value) (record : Record) :
    marks (attributes.map fun entry => Deed.assign entry.1 entry.2) record =
      { record with attributes := record.attributes.insertAll attributes } := by
  induction attributes generalizing record with
  | nil => rfl
  | cons entry rest ih => exact ih _

/-- Deeds that are all done leave their marks on the widget, and nothing else of what nodes ask
for. -/
theorem spec_of_takeSteps {node : String} {widget : WidgetId} {deeds : List Deed}
    {ledger after : Ledger}
    (hrun : (takeSteps (deeds.map (.work node widget))).perform ledger = (.ok (), after)) :
    Forest.Touches widget ledger.forest after.forest ∧
      (after.forest.record? widget).map Record.uncalled =
        ((ledger.forest.record? widget).map Record.uncalled).map (marks deeds) := by
  induction deeds generalizing ledger with
  | nil =>
    cases hrun
    refine ⟨.refl widget _, ?_⟩
    cases after.forest.record? widget <;> rfl
  | cons deed rest ih =>
    obtain ⟨middle, hstep, hrest⟩ := takeSteps_cons_eq_ok_iff.mp hrun
    obtain ⟨hdeed, htouches, -⟩ := BuildStep.work_spec hstep
    obtain ⟨hlater, hmarks⟩ := ih hrest
    refine ⟨htouches.trans hlater, ?_⟩
    rw [hmarks, uncalled_of_done hdeed]
    cases ledger.forest.record? widget <;> rfl

end Deed

namespace NodeSpec

variable (config : Config) (spec : NodeSpec)

private theorem marks_placing (record : Record) :
    Deed.marks (spec.placing config) record =
      { record with attachment := (spec.attachmentIn config).or record.attachment } := by
  by_cases hroot : Kind.of? spec = some .root
  · rw [placing, attachmentIn, if_pos hroot, if_pos hroot]
    cases config.defaultGeometry <;> cases config.defaultTitle <;> rfl
  · rw [placing, if_neg hroot]
    cases spec.attachmentIn config <;> rfl

/-- What is done to a widget before its children are built leaves how it is attached and its
attributes. -/
theorem marks_deeds (record : Record) :
    Deed.marks (spec.deeds config) record =
      { record with
        attachment := (spec.attachmentIn config).or record.attachment
        attributes := record.attributes.insertAll spec.attributes } := by
  rw [deeds, furnishing, Deed.marks_append, Deed.marks_append, Deed.marks_append, marks_placing,
    Deed.marks_assignments, Deed.marks_calls]
  split <;> rfl

variable {config spec}

/-- Once the own steps of a node are taken, the forest has grown by the node alone. -/
theorem grown_of_openingSteps {parent : Option WidgetId} {ledger after : Ledger}
    (hsound : ledger.forest.Sound)
    (hrun : (takeSteps (spec.openingSteps config ledger.seat parent)).perform ledger =
      (.ok (), after)) :
    Forest.Grown config parent [⟨spec, ledger.seat, parent, []⟩] [ledger.seat.widget]
      ledger.forest after.forest ∧ ∀ outer ∈ parent, outer ∈ ledger.forest.live := by
  obtain ⟨planted, hconstruct, hsettle⟩ := takeSteps_cons_eq_ok_iff.mp hrun
  obtain ⟨name, htype, hparent, rfl⟩ := BuildStep.construct_eq_ok hconstruct
  obtain ⟨worked, hwork, hbind⟩ := takeSteps_append_eq_ok_iff.mp hsettle
  obtain ⟨htouches, hmarks⟩ := Deed.spec_of_takeSteps hwork
  have hforest : after.forest = worked.forest := by
    cases hbinding : spec.binding with
    | none =>
      rw [hbinding] at hbind
      cases hbind
      rfl
    | some name =>
      rw [hbinding, Option.map_some, Option.toList_some, takeSteps_singleton] at hbind
      rw [(Ledger.bind_eq_ok hbind).2]
  have hplanted := Forest.record?_plant name parent spec.constructorArgs hsound ledger.forest.next
  rw [if_pos rfl] at hplanted
  change (worked.forest.record? ledger.forest.next).map _ =
    ((Forest.record? _ ledger.forest.next).map _).map _ at hmarks
  rw [hplanted] at hmarks
  obtain ⟨record, hrecord, huncalled⟩ := Option.map_eq_some_iff.mp hmarks
  rw [hforest]
  refine ⟨.plant hsound hparent rfl rfl htouches ⟨record, hrecord, ?_⟩, hparent⟩
  rw [← Place.shows_uncalled, huncalled, marks_deeds]
  exact ⟨htype, rfl, rfl, Option.or_none, rfl⟩

private theorem spares_of_addPages {register : String} {widget : WidgetId}
    {children : List NodeSpec} {ledger after : Ledger}
    (hrun : (takeSteps (children.map (.addPage register widget))).perform ledger =
      (.ok (), after)) : Forest.Spares widget ledger.forest after.forest := by
  induction children generalizing ledger with
  | nil =>
    cases hrun
    exact .refl widget _
  | cons child rest ih =>
    obtain ⟨middle, hstep, hrest⟩ := takeSteps_cons_eq_ok_iff.mp hrun
    obtain ⟨htouches, huncalled, -⟩ := BuildStep.addPage_spec hstep
    exact Forest.Spares.trans ⟨htouches, huncalled⟩ (ih hrest)

/-- What is done once the children of a node are built is calls on the node's widget. -/
theorem spares_of_closingSteps {seat : Seat} {children : List NodeSpec} {ledger after : Ledger}
    (hrun : (takeSteps (spec.closingSteps seat children)).perform ledger = (.ok (), after)) :
    Forest.Spares seat.widget ledger.forest after.forest := by
  obtain ⟨paged, hpages, hhook⟩ := takeSteps_append_eq_ok_iff.mp hrun
  have hpaged : Forest.Spares seat.widget ledger.forest paged.forest := by
    split at hpages
    · obtain ⟨checked, hcheck, hadd⟩ := takeSteps_cons_eq_ok_iff.mp hpages
      obtain ⟨rfl, -⟩ := BuildStep.checkPages_spec hcheck
      exact spares_of_addPages hadd
    · cases hpages
      exact .refl _ _
  have hcalls : spec.hook.map (fun made => BuildStep.work spec.id seat.widget (.call made)) =
      (spec.hook.map Deed.call).map (.work spec.id seat.widget) := by
    rw [List.map_map]
    rfl
  rw [hcalls] at hhook
  obtain ⟨htouches, hmarks⟩ := Deed.spec_of_takeSteps hhook
  refine hpaged.trans ⟨htouches, ?_⟩
  rw [hmarks]
  cases paged.forest.record? seat.widget with
  | none => rfl
  | some record =>
    rw [Option.map_some, Option.map_some, Deed.marks_calls]

end NodeSpec

namespace NodeTree

section Growth

variable {config : Config}

mutual

/-- When all steps of a tree succeed, the forest has grown by its nodes; its parent was live. -/
theorem grown_of_steps {parent : Option WidgetId} : ∀ (tree : NodeTree) {ledger after : Ledger},
    ledger.forest.Sound →
    (takeSteps (tree.steps config ledger.seat parent)).perform ledger = (.ok (), after) →
    Forest.Grown config parent (tree.places ledger.seat parent) [ledger.seat.widget]
      ledger.forest after.forest ∧ ∀ outer ∈ parent, outer ∈ ledger.forest.live
  | node spec children, ledger, after, hsound, hrun => by
    rw [steps] at hrun
    obtain ⟨filled, hfill, hclose⟩ := takeSteps_append_eq_ok_iff.mp hrun
    obtain ⟨opened, hopen, hinner⟩ := takeSteps_append_eq_ok_iff.mp hfill
    obtain ⟨hopened, hparent⟩ := NodeSpec.grown_of_openingSteps hsound hopen
    obtain ⟨hseated, hone⟩ := spec.seated_openingSteps config ledger.seat parent
    have hseat := seat_of_takeSteps hseated hopen
    rw [hone] at hseat
    rw [← hseat] at hinner
    have hown : ∀ outer ∈ some ledger.seat.widget, outer ∈ opened.forest.live := by
      rintro outer ⟨⟩
      exact hopened.mem_live_of_place List.mem_cons_self
    have hfilled := grown_of_stepsAll children hopened.sound hown hinner
    have hclosed := NodeSpec.spares_of_closingSteps hclose
    rw [hseat] at hfilled
    rw [places]
    exact ⟨hopened.enclose hfilled hclosed.touches hclosed.uncalled, hparent⟩

/-- When all steps of several trees succeed, the forest has grown by the places of their nodes. -/
theorem grown_of_stepsAll {parent : Option WidgetId} :
    ∀ (trees : List NodeTree) {ledger after : Ledger}, ledger.forest.Sound →
    (∀ outer ∈ parent, outer ∈ ledger.forest.live) →
    (takeSteps (stepsAll config ledger.seat parent trees)).perform ledger = (.ok (), after) →
    Forest.Grown config parent (placesAll ledger.seat parent trees) (tops ledger.seat trees)
      ledger.forest after.forest
  | [], ledger, after, hsound, _, hrun => by
    cases hrun
    exact .refl config parent hsound
  | tree :: rest, ledger, after, hsound, hparent, hrun => by
    rw [stepsAll] at hrun
    obtain ⟨middle, hfirst, hrest⟩ := takeSteps_append_eq_ok_iff.mp hrun
    obtain ⟨hseated, hcount⟩ := tree.seated_steps config ledger.seat parent
    have hseat := seat_of_takeSteps hseated hfirst
    rw [hcount] at hseat
    obtain ⟨hgrown, -⟩ := grown_of_steps tree hsound hfirst
    have hlater : ∀ outer ∈ parent, outer ∈ middle.forest.live := fun outer houter =>
      hgrown.mem_live_iff.mpr (.inl (hparent outer houter))
    rw [← hseat] at hrest
    have hmore := grown_of_stepsAll rest hgrown.sound hlater hrest
    rw [hseat] at hmore
    exact hgrown.append hmore hparent

end

end Growth

section Walk

variable {forest : Forest}

mutual

/-- A walk from the top of a tree that is seen in the forest visits the widgets of its nodes in
pre-order. -/
theorem walks_places {seat : Seat} {parent : Option WidgetId} {stack visited : List WidgetId} :
    ∀ tree : NodeTree,
    (∀ place ∈ tree.places seat parent,
      place.widget ∈ forest.live ∧ forest.children place.widget = place.inside) →
    forest.Walks stack visited →
    forest.Walks (seat.widget :: stack) ((tree.places seat parent).map Place.widget ++ visited)
  | node spec children, hshown, hwalks => by
    rw [places] at hshown ⊢
    obtain ⟨hlive, hinside⟩ := hshown _ List.mem_cons_self
    change seat.widget ∈ forest.live at hlive
    change forest.children seat.widget = tops (seat.skip 1) children at hinside
    refine .visit hlive ?_
    rw [hinside]
    have hinner := fun place hplace => hshown place (List.mem_cons_of_mem _ hplace)
    exact walks_placesAll children hinner hwalks

private theorem walks_placesAll {seat : Seat} {parent : Option WidgetId}
    {stack visited : List WidgetId} : ∀ trees : List NodeTree,
    (∀ place ∈ placesAll seat parent trees,
      place.widget ∈ forest.live ∧ forest.children place.widget = place.inside) →
    forest.Walks stack visited →
    forest.Walks (tops seat trees ++ stack)
      ((placesAll seat parent trees).map Place.widget ++ visited)
  | [], _, hwalks => hwalks
  | tree :: rest, hshown, hwalks => by
    rw [placesAll] at hshown ⊢
    rw [List.map_append, List.append_assoc]
    have hfirst := fun place hplace => hshown place (List.mem_append_left _ hplace)
    have hrest := fun place hplace => hshown place (List.mem_append_right _ hplace)
    exact walks_places tree hfirst (walks_placesAll rest hrest hwalks)

end

end Walk

/-- When all steps of a tree succeed, the element of its top node is known to have its widget. -/
theorem holders_of_steps {config : Config} {parent : Option WidgetId} (tree : NodeTree)
    {ledger after : Ledger}
    (hrun : (takeSteps (tree.steps config ledger.seat parent)).perform ledger = (.ok (), after)) :
    after.holders[ledger.seat.ref.index]? = some ⟨tree.spec.id, some ledger.seat.widget⟩ := by
  obtain ⟨spec, children⟩ := tree
  obtain ⟨hseated, -⟩ := seated_steps config ledger.seat parent (.node spec children)
  rw [steps, List.append_assoc] at hseated hrun
  obtain ⟨opened, hopen, hrest⟩ := takeSteps_append_eq_ok_iff.mp hrun
  obtain ⟨hopening, hlater⟩ := seated_append.mp hseated
  rw [← seat_of_takeSteps hopening hopen] at hlater
  have hheld := NodeSpec.holders_of_openingSteps config parent spec hopen
  obtain ⟨more, hmore⟩ := holders_prefix_of_takeSteps hlater hrest
  rw [← hmore, hheld, List.append_assoc]
  simp [Ledger.seat, NodeTree.spec]

end NodeTree

namespace Plan

section Growth

variable {config : Config} {target : Option WidgetId} {tree : NodeTree}
variable {site after : Site Forest} {ref : ElementRef}

/-- A build that succeeds has taken all steps of its tree. -/
theorem takeSteps_of_build
    (hbuild : ((Plan.standard config).build target tree).perform site = (.ok ref, after)) :
    (takeSteps (tree.steps config site.ledger.seat target)).perform site.ledger =
      (.ok (), after.ledger) := by
  have hsteps := (build_follows config target tree site).perform_eq
  rw [hbuild] at hsteps
  exact hsteps

/-- A build that succeeds gives an element that has the widget constructed first. -/
theorem widgetOf_of_build
    (hbuild : ((Plan.standard config).build target tree).perform site = (.ok ref, after)) :
    after.widgetOf ref = some site.toolkit.next := by
  have hheld := NodeTree.holders_of_steps tree (takeSteps_of_build hbuild)
  rw [Site.seat_ledger] at hheld
  rw [build_eq_ok hbuild, Site.widgetOf_eq, hheld]
  rfl

/-- A build that succeeds at a reachable toolkit makes the forest grow by the nodes of its tree. The
widgets of the nodes are as many, all of them new, and no other widget is. The element that the
build gives has the widget of the top node, which is the last to have joined the widgets inside the
target, or the roots without one; no other list of widgets and no record that was there before has
changed. A walk from the top widget lists the widgets of the nodes in pre-order, and every one of
them has inside it the widgets of the children of its node and the record that its node asks for. -/
theorem build_grows_by_places (hreachable : site.toolkit.Reachable)
    (hbuild : ((Plan.standard config).build target tree).perform site = (.ok ref, after)) :
    let places := tree.places site.ledger.seat target
    let top := site.toolkit.next
    places.length = tree.count ∧
      (∀ place ∈ places, place.widget ∉ site.toolkit.live) ∧
      after.toolkit.live.Nodup ∧
      Forest.Grown config target places [top] site.toolkit after.toolkit ∧
      after.widgetOf ref = some top ∧
      after.toolkit.walk top = places.map Place.widget ∧
      ∀ place ∈ places, place.spec.attributes.Distinct →
        ∃ record, after.toolkit.record? place.widget = some record ∧
          record.attributes = place.spec.attributes := by
  intro places top
  have hgrown : Forest.Grown config target places [top] site.toolkit after.toolkit :=
    (NodeTree.grown_of_steps tree hreachable.sound (takeSteps_of_build hbuild)).1
  have hwalks : after.toolkit.Walks [top] (places.map Place.widget ++ []) :=
    NodeTree.walks_places tree
      (fun place hplace => ⟨hgrown.mem_live_of_place hplace, (hgrown.shown place hplace).2⟩) .done
  refine ⟨NodeTree.length_places _ _ tree, fun place hplace => hgrown.not_mem_of_place hplace,
    hgrown.sound.live_nodup, hgrown, widgetOf_of_build hbuild, ?_, ?_⟩
  · rw [(Forest.walks_walk hgrown.sound top).unique hwalks, List.append_nil]
  · intro place hplace hdistinct
    obtain ⟨⟨record, hrecord, hshows⟩, -⟩ := hgrown.shown place hplace
    exact ⟨record, hrecord, hshows.attributes.trans (Table.ofPairs_eq_self hdistinct)⟩

/-- A panel with a check button and a button, built inside a window, shows its three nodes there. -/
theorem panel_grows_inside_window :
    let site : Site Forest := { toolkit := Forest.empty.serveAll [.construct "Tk" none []] }
    let agree : NodeSpec :=
      { id := "agree", kind := some "CheckBox", widgetType := some "Checkbutton",
        binding := some "agree" }
    let accept : NodeSpec :=
      { id := "accept", kind := some "Button", widgetType := some "Button",
        attachStrategy := some "pack", attributes := [("text", .string "Accept")] }
    let tree : NodeTree :=
      .node { id := "panel", widgetType := some "Frame" } [.node agree [], .node accept []]
    let outcome := ((Plan.standard {}).build (some ⟨1⟩) tree).perform site
    let places := tree.places site.ledger.seat (some ⟨1⟩)
    site.toolkit.Reachable ∧ outcome.1 = .ok ⟨0⟩ ∧
      places.map Place.widget = [⟨2⟩, ⟨3⟩, ⟨4⟩] ∧
      Forest.Grown {} (some ⟨1⟩) places [site.toolkit.next] site.toolkit outcome.2.toolkit := by
  intro site agree accept tree outcome places
  have hreachable : site.toolkit.Reachable := ⟨[.construct "Tk" none []], rfl⟩
  have hsome : outcome.1.toOption = some ⟨0⟩ := by
    subst outcome tree site
    decide +kernel
  have hok : outcome.1 = .ok ⟨0⟩ := by
    cases hresult : outcome.1 with
    | error error =>
      rw [hresult] at hsome
      cases hsome
    | ok ref =>
      rw [hresult] at hsome
      cases hsome
      rfl
  have hbuild : outcome = (.ok ⟨0⟩, outcome.2) := by rw [← hok]
  have hplaces : places.map Place.widget = [⟨2⟩, ⟨3⟩, ⟨4⟩] := by
    rfl
  obtain ⟨-, -, -, hgrown, -⟩ := build_grows_by_places hreachable hbuild
  exact ⟨hreachable, hok, hplaces, hgrown⟩

end Growth

end Plan

end WidgetTree
