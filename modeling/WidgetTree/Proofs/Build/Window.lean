import WidgetTree.Proofs.Build.Growth
import WidgetTree.Proofs.Build.Sprout
import WidgetTree.Proofs.Forest.Journal

namespace WidgetTree

/-- Where the widget of a record stands: what it is inside, and how it is attached. -/
def Record.standing (record : Record) : Option WidgetId × Option Attachment :=
  (record.parent, record.attachment)

private theorem Record.standing_of_uncalled {before after : Option Record}
    (huncalled : after.map Record.uncalled = before.map Record.uncalled) :
    after.map Record.standing = before.map Record.standing := by
  have hstanding := congrArg (Option.map Record.standing) huncalled
  rw [Option.map_map, Option.map_map] at hstanding
  exact hstanding

/-- Only attaching a widget changes where it stands. -/
theorem Deed.standing_of_act (deed : Deed) (node : String) (widget : WidgetId) (forest : Forest)
    {other : WidgetId} (hother : other = widget → ∀ strategy args, deed ≠ .attach strategy args) :
    (((deed.act node widget).perform forest).2.record? other).map Record.standing =
      (forest.record? other).map Record.standing := by
  by_cases hself : other = widget
  · subst hself
    rcases deed.act_cases node other forest with
      ⟨-, ⟨error, hcase⟩ | hcase⟩ | ⟨made, start, -, -, -, hstart, hcase⟩
    · rw [hcase]
    · rw [hcase, Forest.record?_log, Forest.record?_modify, if_pos rfl, Option.map_map]
      cases deed with
      | attach strategy args => exact absurd rfl (hother rfl strategy args)
      | assign | call | shareVariable => rfl
    · rw [hcase, perform_makeCall]
      have huncalled := (Forest.invoke_spec other made start).2.1
      rcases hstart with rfl | rfl
      · exact Record.standing_of_uncalled huncalled
      · exact Record.standing_of_uncalled huncalled
  · rw [(deed.touches node widget forest).others other hself]

/-- The step constructs at one of the places, inside what is around that place, and it attaches no
window. -/
def BuildStep.Stands (places : List Place) : BuildStep → Prop
  | construct seat _ _ target _ => ∃ place ∈ places, place.seat = seat ∧ place.parent = target
  | work _ widget deed => ∀ strategy args, deed = .attach strategy args →
    ∃ place ∈ places, place.widget = widget ∧ Kind.of? place.spec ≠ some .root
  | bind .. | checkPages .. | addPage .. => True

private theorem BuildStep.Stands.mono {places more : List Place} (hsubset : places ⊆ more)
    {step : BuildStep} (hstands : step.Stands places) : step.Stands more := by
  cases step with
  | construct =>
    obtain ⟨place, hplace, hstand⟩ := hstands
    exact ⟨place, hsubset hplace, hstand⟩
  | work =>
    intro strategy args hattach
    obtain ⟨place, hplace, hstand⟩ := hstands strategy args hattach
    exact ⟨place, hsubset hplace, hstand⟩
  | bind | checkPages | addPage => trivial

/-- A window is not among what is attached when it is built. -/
theorem NodeSpec.ne_root_of_attach {config : Config} {spec : NodeSpec} {strategy : String}
    {args : Fields Value} (hdeed : Deed.attach strategy args ∈ spec.deeds config) :
    Kind.of? spec ≠ some .root := by
  intro hroot
  simp [deeds, placing, furnishing, hroot] at hdeed

namespace NodeTree

section Seats

mutual

/-- The nodes of a tree have consecutive seats. -/
theorem seats_places (seat : Seat) (parent : Option WidgetId) :
    ∀ tree : NodeTree, (tree.places seat parent).map Place.seat =
      (List.range tree.count).map seat.skip
  | node spec children => by
    rw [places, List.map_cons, seats_placesAll, count, List.range_succ_eq_map]
    simp [Function.comp_def, Nat.add_comm]

private theorem seats_placesAll (seat : Seat) (parent : Option WidgetId) :
    ∀ trees : List NodeTree, (placesAll seat parent trees).map Place.seat =
      (List.range (countAll trees)).map seat.skip
  | [] => rfl
  | tree :: rest => by
    rw [placesAll, List.map_append, seats_places, seats_placesAll, countAll, List.range_add,
      List.map_append, List.map_map]
    simp [Function.comp_def]

end

variable {seat : Seat} {parent : Option WidgetId}

private theorem exists_skip_of_mem {places : List Place} {nodes : Nat} {place : Place}
    (hseats : places.map Place.seat = (List.range nodes).map seat.skip) (hplace : place ∈ places) :
    ∃ before, place.seat = seat.skip before := by
  have hseat := List.mem_map_of_mem (f := Place.seat) hplace
  rw [hseats] at hseat
  obtain ⟨before, -, hskip⟩ := List.mem_map.mp hseat
  exact ⟨before, hskip.symm⟩

/-- No two nodes of a tree have one widget. -/
theorem nodup_widgets (seat : Seat) (parent : Option WidgetId) (tree : NodeTree) :
    ((tree.places seat parent).map Place.widget).Nodup := by
  have hwidgets : (tree.places seat parent).map Place.widget =
      (List.range tree.count).map fun nodes => (seat.skip nodes).widget := by
    have hseats := congrArg (List.map Seat.widget) (seats_places seat parent tree)
    rwa [List.map_map, List.map_map] at hseats
  rw [hwidgets]
  refine List.nodup_range.map fun first second heq => ?_
  simpa [Seat.skip] using heq

mutual

/-- Of the nodes of a tree that is built inside a widget, each has a widget around it. -/
theorem parent_of_mem_places {outer : WidgetId} :
    ∀ (tree : NodeTree) (seat : Seat), ∀ place ∈ tree.places seat (some outer),
      place.parent ≠ none
  | node spec children, seat => by
    intro place hplace
    rw [places] at hplace
    rcases List.mem_cons.mp hplace with rfl | hinner
    · exact nofun
    · exact parent_of_mem_placesAll children (seat.skip 1) place hinner

private theorem parent_of_mem_placesAll {outer : WidgetId} :
    ∀ (trees : List NodeTree) (seat : Seat), ∀ place ∈ placesAll seat (some outer) trees,
      place.parent ≠ none
  | [], _ => by simp [placesAll]
  | tree :: rest, seat => by
    intro place hplace
    rw [placesAll] at hplace
    rcases List.mem_append.mp hplace with hfirst | hlater
    · exact parent_of_mem_places tree seat place hfirst
    · exact parent_of_mem_placesAll rest (seat.skip tree.count) place hlater

end

/-- Only the node at the top of a tree that is built without a target has no widget around it. -/
theorem parent_eq_none_iff {tree : NodeTree} {place : Place}
    (hplace : place ∈ tree.places seat parent) :
    place.parent = none ↔ place.seat = seat ∧ parent = none := by
  obtain ⟨spec, children⟩ := tree
  rw [places] at hplace
  rcases List.mem_cons.mp hplace with rfl | hinner
  · simp
  · have hparent := parent_of_mem_placesAll children (seat.skip 1) place hinner
    obtain ⟨before, hskip⟩ := exists_skip_of_mem (seats_placesAll _ _ children) hinner
    have hlater : place.seat ≠ seat := by
      intro heq
      have hnumber := congrArg (fun seat : Seat => seat.widget.number) (hskip.symm.trans heq)
      simp only [Seat.skip] at hnumber
      omega
    simp [hparent, hlater]

end Seats

section Steps

variable (config : Config)

mutual

/-- The steps of a tree construct at its places, each inside what is around it, and attach no
window. -/
theorem stands_steps (seat : Seat) (parent : Option WidgetId) :
    ∀ tree : NodeTree, ∀ step ∈ tree.steps config seat parent,
      step.Stands (tree.places seat parent)
  | node spec children => by
    intro step hstep
    rw [steps, NodeSpec.openingSteps_eq] at hstep
    simp only [List.cons_append, List.mem_cons, List.mem_append] at hstep
    rw [places]
    rcases hstep with rfl | (hsettle | hinner) | hclose
    · exact ⟨_, List.mem_cons_self, rfl, rfl⟩
    · rcases List.mem_append.mp hsettle with hwork | hbind
      · obtain ⟨deed, hdeed, rfl⟩ := List.mem_map.mp hwork
        rintro strategy args rfl
        exact ⟨_, List.mem_cons_self, rfl, NodeSpec.ne_root_of_attach hdeed⟩
      · obtain ⟨name, -, rfl⟩ := Option.map_eq_some_iff.mp (Option.mem_toList.mp hbind)
        trivial
    · have hstands := stands_stepsAll (seat.skip 1) (some seat.widget) children step hinner
      exact hstands.mono (List.subset_cons_self _ _)
    · rcases NodeSpec.closingSteps_cases seat spec hclose with ⟨made, rfl⟩ | rfl | ⟨child, rfl⟩
      · exact nofun
      · trivial
      · trivial

private theorem stands_stepsAll (seat : Seat) (parent : Option WidgetId) :
    ∀ trees : List NodeTree, ∀ step ∈ stepsAll config seat parent trees,
      step.Stands (placesAll seat parent trees)
  | [] => by simp [stepsAll]
  | tree :: rest => by
    intro step hstep
    rw [stepsAll] at hstep
    rw [placesAll]
    rcases List.mem_append.mp hstep with hfirst | hlater
    · exact (stands_steps seat parent tree step hfirst).mono (List.subset_append_left _ _)
    · have hstands := stands_stepsAll (seat.skip tree.count) parent rest step hlater
      exact hstands.mono (List.subset_append_right _ _)

end

end Steps

end NodeTree

/-- The widget of a window, once it is constructed, is inside what is around its place and is not
attached, and the element of the node has it. -/
def Place.Upright (place : Place) (ledger : Ledger) : Prop :=
  place.widget.number ≤ ledger.forest.constructed →
    (ledger.forest.record? place.widget).map Record.standing = some (place.parent, none) ∧
    (ledger.holders[place.seat.ref.index]?).bind Holder.widget = some place.widget

namespace Place.Upright

variable {place : Place} {places : List Place} {ledger after : Ledger}
variable {result : Except BuildError Unit}

/-- What neither constructs nor attaches keeps a window upright. -/
theorem of_kept (hupright : place.Upright ledger)
    (hconstructed : after.forest.constructed = ledger.forest.constructed)
    (hstanding : (after.forest.record? place.widget).map Record.standing =
      (ledger.forest.record? place.widget).map Record.standing)
    (hholders : ledger.holders <+: after.holders) : place.Upright after := by
  intro hissued
  obtain ⟨hstands, hholds⟩ := hupright (hconstructed ▸ hissued)
  refine ⟨hstanding.trans hstands, ?_⟩
  obtain ⟨more, hmore⟩ := hholders
  obtain ⟨holder, hget, hwidget⟩ := Option.bind_eq_some_iff.mp hholds
  obtain ⟨hlength, -⟩ := List.getElem?_eq_some_iff.mp hget
  rw [← hmore, List.getElem?_append_left hlength, hget]
  exact hwidget

variable (hnodup : (places.map Place.widget).Nodup) (hplace : place ∈ places)
include hnodup hplace

/-- A construction that succeeds keeps a window upright, be it that of the window or another. -/
theorem construct (hupright : place.Upright ledger) (hsound : ledger.forest.Sound) {node : String}
    {widgetType : Option String} {target : Option WidgetId} {args : Fields Value}
    (hstands : (BuildStep.construct ledger.seat node widgetType target args).Stands places)
    (hstep : (BuildStep.construct ledger.seat node widgetType target args).act.perform ledger =
      (.ok (), after)) : place.Upright after := by
  obtain ⟨name, -, -, rfl⟩ := BuildStep.construct_eq_ok hstep
  intro hissued
  rw [Forest.constructed_plant] at hissued
  rw [Forest.record?_plant name target args hsound]
  by_cases hown : place.widget = ledger.forest.next
  · obtain ⟨other, hother, hseat, rfl⟩ := hstands
    have hwidget : other.widget = place.widget := (congrArg Seat.widget hseat).trans hown.symm
    obtain rfl := List.inj_on_of_nodup_map hnodup hother hplace hwidget
    rw [if_pos hown, hseat]
    refine ⟨rfl, ?_⟩
    simp [Ledger.seat, hown]
  · have hbefore : place.widget.number ≤ ledger.forest.constructed := by
      have hne : place.widget.number ≠ ledger.forest.constructed + 1 :=
        fun heq => hown (congrArg WidgetId.mk heq)
      omega
    rw [if_neg hown]
    have hkept : place.Upright { ledger with
        holders := ledger.holders ++ [⟨node, some ledger.seat.widget⟩] } :=
      hupright.of_kept rfl rfl (List.prefix_append _ _)
    exact hkept hbefore

/-- Every step of a tree keeps its windows upright, whether or not it succeeds. -/
theorem step (hupright : place.Upright ledger) (hroot : Kind.of? place.spec = some .root)
    (hsound : ledger.forest.Sound) {step : BuildStep} (hseated : step.SeatedAt ledger.seat)
    (hstands : step.Stands places) (hstep : step.act.perform ledger = (result, after)) :
    place.Upright after := by
  have hholders := BuildStep.holders_prefix hseated hstep
  cases step with
  | construct seat node widgetType target args =>
    cases result with
    | error error =>
      rw [BuildStep.construct_eq_error hstep] at hholders ⊢
      exact hupright.of_kept rfl rfl hholders
    | ok _ =>
      obtain rfl := hseated
      exact hupright.construct hnodup hplace hsound hstands hstep
  | work node widget deed =>
    obtain ⟨hdeed, htouches, -⟩ := BuildStep.work_spec hstep
    have hunattached : place.widget = widget → ∀ strategy args, deed ≠ .attach strategy args := by
      rintro hown strategy args rfl
      obtain ⟨other, hother, hwidget, hkind⟩ := hstands strategy args rfl
      obtain rfl := List.inj_on_of_nodup_map hnodup hother hplace (hwidget.trans hown.symm)
      exact hkind hroot
    have hstanding := deed.standing_of_act node widget ledger.forest hunattached
    rw [hdeed] at hstanding
    exact hupright.of_kept htouches.constructed hstanding hholders
  | bind seat node name policy =>
    have hforest : after.forest = ledger.forest := by
      cases result with
      | error error => rw [(Ledger.bind_eq_error hstep).1]
      | ok _ => rw [(Ledger.bind_eq_ok hstep).2]
    exact hupright.of_kept (by rw [hforest]) (by rw [hforest]) hholders
  | checkPages register children =>
    obtain ⟨rfl, -⟩ := BuildStep.checkPages_spec hstep
    exact hupright
  | addPage register widget child =>
    obtain ⟨htouches, huncalled, -⟩ := BuildStep.addPage_spec hstep
    refine hupright.of_kept htouches.constructed ?_ hholders
    by_cases hown : place.widget = widget
    · rw [hown]
      exact Record.standing_of_uncalled huncalled
    · rw [htouches.others _ hown]

/-- The steps of a tree keep its windows upright up to wherever they fail. -/
theorem takeSteps (hupright : place.Upright ledger) (hroot : Kind.of? place.spec = some .root)
    (hreachable : ledger.forest.Reachable) {steps : List BuildStep}
    (hseated : Seated ledger.seat steps) (hstands : ∀ step ∈ steps, step.Stands places)
    (hrun : (WidgetTree.takeSteps steps).perform ledger = (result, after)) :
    place.Upright after := by
  refine (kept_of_takeSteps (fun ledger => ledger.forest.Reachable ∧ place.Upright ledger) ?_
    hseated ⟨hreachable, hupright⟩ hrun).2
  rintro step hmem before outcome left hseat ⟨hbefore, hstill⟩ hstep
  have hleft := step.act_preserves before hbefore
  rw [hstep] at hleft
  exact ⟨hleft, hstill.step hnodup hplace hroot hbefore.sound hseat (hstands step hmem) hstep⟩

end Place.Upright

namespace Plan

variable {config : Config} {target : Option WidgetId} {tree : NodeTree}
variable {site after : Site Forest} {result : Except BuildError ElementRef}

private theorem upright_of_build (hreachable : site.toolkit.Reachable)
    (hbuild : ((Plan.standard config).build target tree).perform site = (result, after))
    {place : Place} (hplace : place ∈ tree.places site.ledger.seat target)
    (hroot : Kind.of? place.spec = some .root) : place.Upright after.ledger := by
  have hsteps := (build_follows config target tree site).perform_eq
  rw [hbuild] at hsteps
  have hstart : place.Upright site.ledger := by
    intro hissued
    obtain ⟨nodes, hskip⟩ := NodeTree.exists_skip_of_mem (NodeTree.seats_places _ _ tree) hplace
    have hnumber : place.widget.number = site.toolkit.constructed + 1 + nodes :=
      congrArg (fun seat : Seat => seat.widget.number) hskip
    have hbelow : place.widget.number ≤ site.toolkit.constructed := hissued
    omega
  exact hstart.takeSteps (NodeTree.nodup_widgets _ _ tree) hplace hroot hreachable
    (NodeTree.seated_steps config _ target tree).1 (NodeTree.stands_steps config _ target tree)
    hsteps

/-- Whatever is built inside whatever target at a reachable toolkit, and however far the build gets:
the widget that was constructed for a window is that of its node's element, it is inside the widget
of the node around it, or inside the target if there is none, and it was never attached. It is a
root exactly if its node is at the top of the tree and there is no target. A build that succeeds has
constructed a widget for every node. -/
theorem windows_of_build (hreachable : site.toolkit.Reachable)
    (hbuild : ((Plan.standard config).build target tree).perform site = (result, after)) :
    let places := tree.places site.ledger.seat target
    (∀ place ∈ places, Kind.of? place.spec = some .root →
      place.widget ∈ after.toolkit.constructions →
        after.widgetOf place.seat.ref = some place.widget ∧
        after.toolkit.link? place.widget = some place.parent ∧
        (place.widget ∈ after.toolkit.roots ↔ place.seat = site.ledger.seat ∧ target = none) ∧
        ∀ strategy, .attached place.widget strategy ∉ after.toolkit.history) ∧
    ∀ ref, result = .ok ref → ∀ place ∈ places, place.widget ∈ after.toolkit.constructions := by
  intro places
  have hafter := reachable_of_build hreachable hbuild
  refine ⟨fun place hplace hroot hconstructed => ?_, ?_⟩
  · rw [hafter.chronicled, Forest.mem_numberedUpTo_iff] at hconstructed
    obtain ⟨hstands, hholds⟩ := upright_of_build hreachable hbuild hplace hroot hconstructed.2
    obtain ⟨record, hrecord, hstanding⟩ := Option.map_eq_some_iff.mp hstands
    obtain ⟨hparent, hattachment⟩ := Prod.mk.inj hstanding
    have hlink : after.toolkit.link? place.widget = some place.parent := by
      rw [← hparent]
      exact congrArg (Option.map Record.parent) hrecord
    obtain ⟨requests, hrequests⟩ := id hafter
    have haccounted : after.toolkit.Accounted :=
      hrequests ▸ Forest.accounted_empty.serveAll Forest.sound_empty requests
    refine ⟨(Site.widgetOf_eq after _).trans hholds, hlink, ?_, ?_⟩
    · rw [hafter.sound.mem_roots_iff, hlink, Option.some.injEq]
      exact NodeTree.parent_eq_none_iff hplace
    · exact haccounted.not_attached hrecord hattachment
  · rintro ref rfl place hplace
    have hgrown := (NodeTree.grown_of_steps tree hreachable.sound (takeSteps_of_build hbuild)).1
    rw [hafter.chronicled, Forest.mem_numberedUpTo_iff]
    exact hafter.sound.issued _ (hgrown.mem_live_of_place hplace)

/-- A window that is built without a target is a root. -/
theorem main_window_stands :
    let site : Site Forest := { toolkit := Forest.empty }
    let tree : NodeTree := .node { id := "main", kind := some "root" }
      [.node { id := "panel", widgetType := some "Frame" } []]
    let outcome := ((Plan.standard {}).build none tree).perform site
    site.toolkit.Reachable ∧ outcome.1 = .ok ⟨0⟩ ∧
      outcome.2.widgetOf ⟨0⟩ = some ⟨1⟩ ∧ outcome.2.toolkit.link? ⟨1⟩ = some none ∧
      ⟨1⟩ ∈ outcome.2.toolkit.roots ∧
      ∀ strategy, .attached ⟨1⟩ strategy ∉ outcome.2.toolkit.history := by
  intro site tree outcome
  have hreachable : site.toolkit.Reachable := ⟨[], rfl⟩
  have hok : outcome.1 = .ok ⟨0⟩ := by
    subst outcome tree site
    decide +kernel
  have hbuild : outcome = (.ok ⟨0⟩, outcome.2) := by rw [← hok]
  obtain ⟨hwindows, hconstructed⟩ := windows_of_build hreachable hbuild
  let top : Place := ⟨{ id := "main", kind := some "root" }, ⟨⟨1⟩, ⟨0⟩⟩, none, [⟨2⟩]⟩
  have htop : top ∈ tree.places site.ledger.seat none := List.mem_cons_self
  obtain ⟨hheld, hlink, hroots, hattached⟩ :=
    hwindows top htop rfl (hconstructed ⟨0⟩ rfl top htop)
  exact ⟨hreachable, hok, hheld, hlink, hroots.mpr ⟨rfl, rfl⟩, hattached⟩

/-- A window that is declared inside another is constructed inside its widget, and is no root. -/
theorem nested_window_inside :
    let popup : NodeSpec := { id := "popup", kind := some "root", widgetType := some "Toplevel" }
    let tree : NodeTree := .node { id := "main", kind := some "root" } [.node popup []]
    let outcome := ((Plan.standard {}).build none tree).perform
      ({ toolkit := Forest.empty } : Site Forest)
    Kind.of? popup = some .root ∧ outcome.1 = .ok ⟨0⟩ ∧ outcome.2.widgetOf ⟨1⟩ = some ⟨2⟩ ∧
      outcome.2.toolkit.link? ⟨2⟩ = some (some ⟨1⟩) ∧ outcome.2.toolkit.roots = [⟨1⟩] := by
  intro popup tree outcome
  refine ⟨?_, ?_, ?_, ?_, ?_⟩ <;> subst outcome tree popup <;> decide +kernel

end Plan

end WidgetTree
