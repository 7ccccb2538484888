import WidgetTree.Proofs.Build.Growth
import WidgetTree.Proofs.Mirror.Step

namespace WidgetTree

/-- No argument of the node's construction or of its calls is a handle. Handles elsewhere in a node,
among its attributes or inside other values, are never followed. -/
structure NodeSpec.HandleFree (spec : NodeSpec) : Prop where
  constructorArgs : ∀ entry ∈ spec.constructorArgs, entry.2.isHandle = false
  sequence : ∀ made ∈ spec.sequenceCalls, made.HandleFree
  hook : ∀ made ∈ spec.hook, made.HandleFree

namespace NodeTree

mutual

/-- The tree brings no handles with it. -/
def HandleFree : NodeTree → Prop
  | node spec children => spec.HandleFree ∧ AllHandleFree children

/-- None of the trees brings handles with it. -/
def AllHandleFree : List NodeTree → Prop
  | [] => True
  | tree :: rest => HandleFree tree ∧ AllHandleFree rest

end

end NodeTree

namespace Mirror

variable {mirror : Mirror}

section Runs

variable {first second : Ledger}

/-- After a step that is the same on both sides the remaining steps are taken on both sides, or on
neither. -/
theorem Parallel.cons {step counterpart : BuildStep} {rest others : List BuildStep}
    (hstep : Parallel mirror.Ledgers (step.act.perform first) (counterpart.act.perform second))
    (hfirst : first.forest.Reachable) (hsecond : second.forest.Reachable)
    (hseated : Seated first.seat (step :: rest))
    (hpaired : Seated second.seat (counterpart :: others))
    (hrest : ∀ {left right}, mirror.Ledgers left right → left.forest.Reachable →
      right.forest.Reachable → Seated left.seat rest → Seated right.seat others →
      Parallel mirror.Ledgers ((takeSteps rest).perform left)
        ((takeSteps others).perform right)) :
    Parallel mirror.Ledgers ((takeSteps (step :: rest)).perform first)
      ((takeSteps (counterpart :: others)).perform second) := by
  obtain ⟨hresult, hafter⟩ := hstep
  have hleft := step.act_preserves first hfirst
  have hright := counterpart.act_preserves second hsecond
  rw [takeSteps, takeSteps]
  rcases hone : step.act.perform first with ⟨outcome, left⟩
  rcases hother : counterpart.act.perform second with ⟨same, right⟩
  rw [hone] at hresult hafter hleft
  rw [hother] at hresult hafter hright
  obtain rfl : outcome = same := hresult
  cases outcome with
  | error error =>
    rw [Act.perform_bind_error hone, Act.perform_bind_error hother]
    exact ⟨rfl, hafter⟩
  | ok _ =>
    rw [Act.perform_bind_ok hone, Act.perform_bind_ok hother]
    refine hrest hafter hleft hright ?_ ?_
    · rw [BuildStep.seat_of_taken hseated.1 hone]
      exact hseated.2
    · rw [BuildStep.seat_of_taken hpaired.1 hother]
      exact hpaired.2

/-- Steps that mirror each other, taken up to wherever they fail, have the same result, and leave
ledgers that mirror each other. -/
theorem Ledgers.takeSteps {steps counterparts : List BuildStep}
    (hsteps : List.Forall₂ mirror.Steps steps counterparts) (hledgers : mirror.Ledgers first second)
    (hfirst : first.forest.Reachable) (hsecond : second.forest.Reachable)
    (hseated : Seated first.seat steps) (hpaired : Seated second.seat counterparts) :
    Parallel mirror.Ledgers ((WidgetTree.takeSteps steps).perform first)
      ((WidgetTree.takeSteps counterparts).perform second) := by
  induction hsteps generalizing first second with
  | nil => exact ⟨rfl, hledgers⟩
  | cons hstep _ ih =>
    have htaken := hledgers.step hstep hfirst.sound hsecond.sound hseated.1 hpaired.1
    exact htaken.cons hfirst hsecond hseated hpaired ih

/-- Where the beginnings are two ledgers as they are, and no names are bound yet, these mirror each
other. -/
theorem Ledgers.begin (hfirst : first.forest.Sound) (hsecond : second.forest.Sound)
    (hunbound : first.registry = []) (hnothing : second.registry = []) :
    Ledgers ⟨first.origin, second.origin⟩ first second where
  forests := .begin hfirst hsecond _ _
  count := ⟨Nat.le_refl _, Nat.add_comm _ _⟩
  registry := by
    rw [hunbound, hnothing]
    exact .nil
  holders := by
    rintro ref twin ⟨hlater, hdistance⟩
    dsimp only [Ledger.origin] at hlater hdistance
    rw [List.getElem?_eq_none hlater, List.getElem?_eq_none (by omega)]
    exact .none

end Runs

section Trees

variable (config : Config)

/-- The same items give steps that mirror each other if each of them does. -/
theorem steps_map {α : Type} {items : List α} {step counterpart : α → BuildStep}
    (hsteps : ∀ item ∈ items, mirror.Steps (step item) (counterpart item)) :
    List.Forall₂ mirror.Steps (items.map step) (items.map counterpart) := by
  rw [List.forall₂_map_left_iff, List.forall₂_map_right_iff, List.forall₂_same]
  exact hsteps

private theorem deeds_handleFree {spec : NodeSpec} (hfree : spec.HandleFree) :
    ∀ deed ∈ spec.deeds config, deed.HandleFree := by
  have htext (method text : String) : (Deed.call (Core.windowCall method text)).HandleFree := by
    simp [Deed.HandleFree, Call.HandleFree, Core.windowCall, Value.isHandle]
  intro deed hdeed
  rw [NodeSpec.deeds, List.mem_append, List.mem_append] at hdeed
  rcases hdeed with (hplacing | hfurnishing) | hsharing
  · rw [NodeSpec.placing] at hplacing
    split at hplacing
    · rcases List.mem_append.mp hplacing with hgeometry | htitle
      · obtain ⟨text, -, rfl⟩ := Option.map_eq_some_iff.mp (Option.mem_toList.mp hgeometry)
        exact htext _ _
      · obtain ⟨text, -, rfl⟩ := Option.map_eq_some_iff.mp (Option.mem_toList.mp htitle)
        exact htext _ _
    · obtain ⟨attachment, -, rfl⟩ := Option.map_eq_some_iff.mp (Option.mem_toList.mp hplacing)
      trivial
  · rcases List.mem_append.mp hfurnishing with hassign | hcall
    · obtain ⟨entry, -, rfl⟩ := List.mem_map.mp hassign
      trivial
    · obtain ⟨made, hmade, rfl⟩ := List.mem_map.mp hcall
      exact hfree.sequence made hmade
  · split at hsharing
    · obtain rfl := List.mem_singleton.mp hsharing
      trivial
    · cases hsharing

variable {seat paired : Seat} (hseats : mirror.Seats seat paired)
include hseats

private theorem settlingSteps {spec : NodeSpec} (hfree : spec.HandleFree) :
    List.Forall₂ mirror.Steps (spec.settlingSteps config seat)
      (spec.settlingSteps config paired) := by
  have hdeeds := deeds_handleFree config hfree
  refine List.rel_append ?_ ?_
  · exact steps_map fun deed hdeed => .work spec.id hseats.widget (hdeeds deed hdeed)
  · cases spec.binding with
    | none => exact .nil
    | some name => exact .cons (.bind spec.id name config.bindingPolicy hseats) .nil

private theorem closingSteps {spec : NodeSpec} (hfree : spec.HandleFree)
    (children : List NodeSpec) : List.Forall₂ mirror.Steps (spec.closingSteps seat children)
      (spec.closingSteps paired children) := by
  refine List.rel_append ?_ ?_
  · split
    · refine .cons (.checkPages spec.id children) ?_
      exact steps_map fun child _ => .addPage spec.id child hseats.widget
    · exact .nil
  · exact steps_map fun made hmade => .work spec.id hseats.widget (hfree.hook made hmade)

end Trees

end Mirror

namespace NodeTree

variable {mirror : Mirror} (config : Config)

mutual

/-- A tree without handles is built in steps that mirror each other, inside widgets and in seats
that do. -/
theorem steps_mirror {outer twin : WidgetId} (hinside : mirror.Widgets outer twin) :
    ∀ (tree : NodeTree) {seat paired : Seat}, tree.HandleFree → mirror.Seats seat paired →
      List.Forall₂ mirror.Steps (tree.steps config seat (some outer))
        (tree.steps config paired (some twin))
  | node spec children, seat, paired, hfree, hseats => by
    obtain ⟨hspec, hchildren⟩ := hfree
    rw [steps, steps, NodeSpec.openingSteps_eq, NodeSpec.openingSteps_eq]
    refine List.rel_append (List.rel_append (.cons ?_ ?_) ?_) ?_
    · exact .construct spec.id _ hseats hinside hspec.constructorArgs
    · exact Mirror.settlingSteps config hseats hspec
    · exact stepsAll_mirror hseats.widget children hchildren (hseats.skip 1)
    · exact Mirror.closingSteps hseats hspec _

private theorem stepsAll_mirror {outer twin : WidgetId} (hinside : mirror.Widgets outer twin) :
    ∀ (trees : List NodeTree) {seat paired : Seat}, AllHandleFree trees →
      mirror.Seats seat paired →
      List.Forall₂ mirror.Steps (stepsAll config seat (some outer) trees)
        (stepsAll config paired (some twin) trees)
  | [], _, _, _, _ => .nil
  | tree :: rest, seat, paired, hfree, hseats => by
    rw [stepsAll, stepsAll]
    refine List.rel_append ?_ ?_
    · exact steps_mirror hinside tree hfree.1 hseats
    · exact stepsAll_mirror hinside rest hfree.2 (hseats.skip tree.count)

end

/-- A tree without handles is built alike on both sides, each time inside a live target or at the
top. -/
theorem takeSteps_mirror {tree : NodeTree} (hfree : tree.HandleFree) {first second : Ledger}
    (hfirst : first.forest.Reachable) (hsecond : second.forest.Reachable)
    (hunbound : first.registry = []) (hnothing : second.registry = [])
    {target twin : Option WidgetId} (htarget : ∀ outer ∈ target, outer ∈ first.forest.live)
    (htwin : ∀ outer ∈ twin, outer ∈ second.forest.live) :
    let mirror : Mirror := ⟨first.origin, second.origin⟩
    mirror.Widgets first.forest.next second.forest.next ∧
      Mirror.Parallel mirror.Ledgers
        ((takeSteps (tree.steps config first.seat target)).perform first)
        ((takeSteps (tree.steps config second.seat twin)).perform second) := by
  intro mirror
  have hledgers : mirror.Ledgers first second :=
    .begin hfirst.sound hsecond.sound hunbound hnothing
  refine ⟨hledgers.forests.next, ?_⟩
  have hparents : mirror.Parents first.forest second.forest target twin :=
    .outside hfirst.sound hsecond.sound (Nat.le_refl _) (Nat.le_refl _) htarget htwin
  obtain ⟨spec, children⟩ := tree
  obtain ⟨hspec, hchildren⟩ := hfree
  have hseated := (seated_steps config first.seat target (.node spec children)).1
  have hpaired := (seated_steps config second.seat twin (.node spec children)).1
  have hconstruct := hledgers.construct hfirst.sound hsecond.sound hparents spec.id
    (spec.typeIn config) hspec.constructorArgs
  rw [steps, NodeSpec.openingSteps_eq, List.cons_append, List.cons_append] at hseated hpaired
  rw [steps, steps, NodeSpec.openingSteps_eq, NodeSpec.openingSteps_eq, List.cons_append,
    List.cons_append, List.cons_append, List.cons_append]
  refine hconstruct.cons hfirst hsecond hseated hpaired ?_
  intro left right hafter
  refine Mirror.Ledgers.takeSteps ?_ hafter
  refine List.rel_append (List.rel_append ?_ ?_) ?_
  · exact Mirror.settlingSteps config hledgers.seat hspec
  · exact stepsAll_mirror config hledgers.seat.widget children hchildren (hledgers.seat.skip 1)
  · exact Mirror.closingSteps hledgers.seat hspec _

end NodeTree

namespace Site

/-- The names that are bound, each with the id of the element that it is bound to. -/
def bindings (site : Site Forest) : List (String × Option String) :=
  site.registry.map fun entry => (entry.1, (site.elements.get? entry.2).map Element.id)

/-- Sites with ledgers that mirror each other have the same names bound to elements with the same
ids. -/
theorem bindings_eq {mirror : Mirror} {site other : Site Forest}
    (hledgers : mirror.Ledgers site.ledger other.ledger) : site.bindings = other.bindings := by
  have hid (site : Site Forest) (ref : ElementRef) : (site.elements.get? ref).map Element.id =
      (site.ledger.holders[ref.index]?).map Holder.node := by
    rw [get?_holders, Option.map_map]
    rfl
  have hregistry : Table.Matches mirror.Refs site.registry other.registry := hledgers.registry
  rw [bindings, bindings]
  refine hregistry.map_eq (fun ref => (site.elements.get? ref).map Element.id)
    (fun ref => (other.elements.get? ref).map Element.id) fun hrefs => ?_
  rw [hid, hid]
  obtain ⟨hfirst, hsecond⟩ | ⟨one, paired, hfirst, hsecond, hholders⟩ :=
    Mirror.rel_cases (hledgers.holders hrefs)
  · rw [hfirst, hsecond]
  · rw [hfirst, hsecond, Option.map_some, Option.map_some, hholders.node]

end Site

namespace Plan

variable {config : Config} {tree : NodeTree} {site other : Site Forest}
variable {target twin : Option WidgetId}

/-- A build of a tree without handles is independent of what else the toolkit holds. From two
reachable toolkits, with nothing bound yet, and each time inside a live target or at the top, it
succeeds both times or fails both times with the same error, and has then bound the same names to
elements with the same ids. What has come to either toolkit is the subtree of the widget constructed
first, if it was constructed, which is so in both or in neither; and the two subtrees have the same
text. -/
theorem build_independent (hfree : tree.HandleFree)
    {result same : Except BuildError ElementRef} {after paired : Site Forest}
    (hbuilt : ((Plan.standard config).build target tree).perform site = (result, after))
    (hpaired : ((Plan.standard config).build twin tree).perform other = (same, paired))
    (hsite : site.toolkit.Reachable) (hother : other.toolkit.Reachable)
    (hunbound : site.registry = []) (hnothing : other.registry = [])
    (htarget : ∀ outer ∈ target, outer ∈ site.toolkit.live)
    (htwin : ∀ outer ∈ twin, outer ∈ other.toolkit.live) :
    result.map (fun _ => ()) = same.map (fun _ => ()) ∧
      after.bindings = paired.bindings ∧
      site.toolkit.AddsSubtree after.toolkit ∧ other.toolkit.AddsSubtree paired.toolkit ∧
      after.toolkit.contains site.toolkit.next = paired.toolkit.contains other.toolkit.next ∧
      after.toolkit.subtreeText site.toolkit.next =
        paired.toolkit.subtreeText other.toolkit.next := by
  obtain ⟨htops, hresult, hafter⟩ := @NodeTree.takeSteps_mirror config tree hfree site.ledger
    other.ledger hsite hother hunbound hnothing target twin htarget htwin
  rw [(build_follows config target tree site).perform_eq,
    (build_follows config twin tree other).perform_eq, hbuilt, hpaired] at hresult hafter
  have hforests : Mirror.Forests _ after.toolkit paired.toolkit := hafter.forests
  refine ⟨hresult, Site.bindings_eq hafter, addsSubtree_of_build hsite.sound hbuilt,
    addsSubtree_of_build hother.sound hpaired, hforests.contains_eq htops, ?_⟩
  exact hforests.subtreeText_eq (reachable_of_build hsite hbuilt).sound
    (reachable_of_build hother hpaired).sound htops

/-- A panel with a check box, which is toggled at last, in a toolkit that has only a window, and in
one that has more. -/
theorem panel_alike :
    let quiet := Forest.empty.serveAll [.construct "Tk" none []]
    let busy := Forest.empty.serveAll
      [.createVariable (.bool true), .construct "Tk" none [], .construct "Frame" (some ⟨1⟩) [],
        .construct "Label" (some ⟨2⟩) [], .construct "Toplevel" none []]
    let switch : NodeSpec :=
      { id := "switch", kind := some "CheckBox", widgetType := some "Checkbutton",
        constructorArgs := [("text", .string "on")], binding := some "choice",
        hook := [⟨"toggle", ⟨[], []⟩⟩] }
    let tree : NodeTree := .node { id := "panel", widgetType := some "Frame" } [.node switch []]
    let built := ((Plan.standard {}).build (some ⟨1⟩) tree).perform { toolkit := quiet }
    let paired := ((Plan.standard {}).build (some ⟨4⟩) tree).perform { toolkit := busy }
    quiet.next = ⟨2⟩ ∧ busy.next = ⟨5⟩ ∧
      built.1.map (fun _ => ()) = paired.1.map (fun _ => ()) ∧
      paired.2.bindings = [("choice", some "switch")] ∧
      paired.2.toolkit.subtreeText ⟨5⟩ =
        "Frame\n  Checkbutton text=\"on\" variable=<variable> onvalue=1 offvalue=0" := by
  intro quiet busy switch tree built paired
  have hfree : tree.HandleFree := by
    subst tree switch
    refine ⟨⟨?_, ?_, ?_⟩, ⟨⟨?_, ?_, ?_⟩, trivial⟩, trivial⟩
    all_goals simp [Value.isHandle, Call.HandleFree, NodeSpec.sequenceCalls]
  have hserved (requests : List Forest.Request) : (Forest.empty.serveAll requests).Reachable :=
    ⟨requests, rfl⟩
  have hquiet : quiet.Reachable := hserved _
  have hbusy : busy.Reachable := hserved _
  have hfirst : (⟨1⟩ : WidgetId) ∈ quiet.live := by
    subst quiet
    decide +kernel
  have hsecond : (⟨4⟩ : WidgetId) ∈ busy.live := by
    subst busy
    decide +kernel
  have hnext : quiet.next = ⟨2⟩ ∧ busy.next = ⟨5⟩ := by
    subst quiet busy
    decide +kernel
  have htarget : ∀ outer ∈ some (⟨1⟩ : WidgetId), outer ∈ quiet.live := by
    rintro outer ⟨⟩
    exact hfirst
  have htwin : ∀ outer ∈ some (⟨4⟩ : WidgetId), outer ∈ busy.live := by
    rintro outer ⟨⟩
    exact hsecond
  have hbuilt : built = (built.1, built.2) := (Prod.eta built).symm
  have hpaired : paired = (paired.1, paired.2) := (Prod.eta paired).symm
  obtain ⟨hresult, hbindings, -, -, -, htext⟩ :=
    build_independent hfree hbuilt hpaired hquiet hbusy rfl rfl htarget htwin
  have hshown : built.2.bindings = [("choice", some "switch")] ∧
      built.2.toolkit.subtreeText ⟨2⟩ =
        "Frame\n  Checkbutton text=\"on\" variable=<variable> onvalue=1 offvalue=0" := by
    subst built tree switch quiet
    decide +kernel
  rw [hnext.1, hnext.2] at htext
  rw [hshown.1] at hbindings
  rw [hshown.2] at htext
  exact ⟨hnext.1, hnext.2, hresult, hbindings.symm, htext.symm⟩

end Plan

end WidgetTree
