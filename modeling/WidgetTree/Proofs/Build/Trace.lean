import WidgetTree.Proofs.Build.Site

namespace WidgetTree

/-- A builder with the standard resolver. -/
def Plan.standard (config : Config) : Plan := { config }

namespace Site

variable {site after : Site Forest} (config : Config) (target : Option WidgetId) (spec : NodeSpec)

/-- The element of a node in the role that the standard resolver finds for it. -/
def freshElement (spec : NodeSpec) : Element := .ofSpec (.ofKind (Kind.of? spec)) spec

/-- An element that was just added is found by the reference that it was given. -/
theorem get?_introduced (site : Site Forest) (element : Element) :
    Elements.get? (site.elements ++ [element]) site.elements.next = some element := by
  simp [Elements.get?, Elements.next]

private theorem put_introduced (site : Site Forest) (element worked : Element) :
    Elements.put (site.elements ++ [element]) site.elements.next worked =
      site.elements ++ [worked] := by
  simp [Elements.put, Elements.next]

/-- Opening a node follows its opening steps. -/
theorem openNode_follows (site : Site Forest) :
    Follows ledger ((Plan.standard config).openNode target spec (freshElement spec))
      (takeSteps (spec.openingSteps config site.ledger.seat target)) site := by
  have hsteps : takeSteps (spec.openingSteps config site.ledger.seat target) =
      Ledger.introduce spec.id >>= fun _ =>
        Core.buildSteps spec (spec.typeIn config) site.elements.next target (spec.deeds config)
          site.toolkit.next >>= fun _ =>
        takeSteps (spec.binding.map fun name =>
          BuildStep.bind ⟨site.toolkit.next, site.elements.next⟩ spec.id name
            config.bindingPolicy).toList := by
    rw [NodeSpec.openingSteps_eq, NodeSpec.settlingSteps, seat_ledger, takeSteps, takeSteps_append]
    simp only [BuildStep.act, Core.buildSteps, bind_assoc]
  rw [hsteps, Plan.openNode]
  have hintroduce :
      Follows ledger (introduce (freshElement spec)) (Ledger.introduce spec.id) site :=
    introduce_follows rfl
  refine hintroduce.bind ?_
  rintro ref introduced hintroduced
  obtain ⟨rfl, rfl⟩ : site.elements.next = ref ∧
      { site with elements := site.elements ++ [freshElement spec] } = introduced := by
    cases hintroduced
    exact ⟨rfl, rfl⟩
  have hget := get?_introduced site (freshElement spec)
  have hwork : Follows ledger
      (onElement site.elements.next (Element.build config target))
      (Core.buildSteps spec (spec.typeIn config) site.elements.next target (spec.deeds config)
        site.toolkit.next)
      { site with elements := site.elements ++ [freshElement spec] } :=
    onElement_follows hget (Element.build_follows _ _ config target spec site.toolkit)
  refine hwork.bind ?_
  intro _ built hbuilt
  obtain ⟨work, hbuild, rfl⟩ := onElement_eq_ok hget hbuilt
  obtain ⟨-, hspec, -⟩ := Element.build_eq_ok hbuild
  have hnode : ({ site with
      toolkit := work.toolkit
      elements := Elements.put (site.elements ++ [freshElement spec]) site.elements.next
        work.subject } : Site Forest).ledger.nodeOf site.elements.next = spec.id := by
    rw [← idOf_eq]
    dsimp only
    rw [put_introduced, Elements.idOf, get?_introduced]
    exact congrArg NodeSpec.id hspec
  exact (bind_follows spec.binding ⟨site.toolkit.next, site.elements.next⟩ spec.id
    config.bindingPolicy hnode).bind_silent fun _ _ _ => .pure _

/-- What a node that was opened has done is introduce its element and build it. -/
theorem work_of_openNode {config : Config} {target : Option WidgetId} {spec : NodeSpec}
    {ref : ElementRef}
    (hopen : ((Plan.standard config).openNode target spec (freshElement spec)).perform site =
      (.ok ref, after)) :
    ref = site.elements.next ∧ ∃ work,
      (Element.build config target).perform ⟨freshElement spec, site.toolkit⟩ = (.ok (), work) ∧
      after.elements = site.elements ++ [work.subject] ∧ after.toolkit = work.toolkit := by
  have hintroduced : (introduce (freshElement spec)).perform site =
    (.ok site.elements.next, { site with elements := site.elements ++ [freshElement spec] }) := rfl
  rw [Plan.openNode, Act.perform_bind_ok hintroduced, Act.perform_bind_eq_ok_iff] at hopen
  obtain ⟨_, built, hbuilt, hrest⟩ := hopen
  rw [Act.perform_bind_eq_ok_iff] at hrest
  obtain ⟨_, bound, hbound, href⟩ := hrest
  obtain ⟨work, hbuild, rfl⟩ := onElement_eq_ok (get?_introduced site (freshElement spec)) hbuilt
  obtain ⟨helements, htoolkit⟩ := kept_of_bind hbound
  dsimp only at helements
  rw [put_introduced] at helements
  cases href
  exact ⟨rfl, work, hbuild, helements, htoolkit⟩

/-- An element that was opened has the next widget, is that of its node, and plays the role of its
node's kind; no other element has changed. -/
theorem openNode_eq_ok {config : Config} {target : Option WidgetId} {spec : NodeSpec}
    {ref : ElementRef}
    (hopen : ((Plan.standard config).openNode target spec (freshElement spec)).perform site =
      (.ok ref, after)) :
    ref = site.elements.next ∧ ∃ element, after.elements = site.elements ++ [element] ∧
      element.core.widget = some site.toolkit.next ∧ element.core.spec = spec ∧
      element.role.name = (Role.ofKind (Kind.of? spec)).name := by
  obtain ⟨rfl, work, hbuild, helements, -⟩ := work_of_openNode hopen
  exact ⟨rfl, work.subject, helements, Element.build_eq_ok hbuild⟩

/-- Elders are found where they were. -/
theorem get?_of_elders {elders : List Element} {element : Element} (helders : Elders elders site)
    {ref : ElementRef} (hget : elders[ref.index]? = some element) :
    site.elements.get? ref = some element := by
  obtain ⟨hlt, -⟩ := List.getElem?_eq_some_iff.mp hget
  rw [← helders.2, List.getElem?_take_of_lt hlt] at hget
  exact hget

/-- What follows steps and succeeds has taken their seats. -/
theorem seat_of_follows {α : Type} {act : Act (Site Forest) α} {steps : List BuildStep} {result : α}
    (hfollows : Follows ledger act (takeSteps steps) site)
    (hseated : Seated site.ledger.seat steps) (hact : act.perform site = (.ok result, after)) :
    after.ledger.seat = site.ledger.seat.skip (seatsOf steps) := by
  have hsteps := hfollows.perform_eq
  rw [hact] at hsteps
  exact seat_of_takeSteps hseated hsteps

end Site

namespace Plan

variable (config : Config)

mutual

/-- A tree is built in its steps. -/
theorem build_follows (target : Option WidgetId) :
    ∀ (tree : NodeTree) (site : Site Forest), Follows Site.ledger
      ((Plan.standard config).build target tree)
      (takeSteps (tree.steps config site.ledger.seat target)) site
  | .node spec children, site => by
    have hfresh : (Act.ofExcept ((Plan.standard config).resolver.element spec)).perform site =
        (.ok (Site.freshElement spec), site) := by
      rw [Act.perform_ofExcept]
      exact congrArg (·, site) (element_standard spec)
    rw [build_node, NodeTree.steps, takeSteps_append, takeSteps_append, bind_assoc]
    refine .silent_bind hfresh rfl ?_
    have hopening := Site.openNode_follows config target spec site
    refine hopening.bind ?_
    intro ref opened hopened
    obtain ⟨rfl, element, helements, hwidget, hspec, hrole⟩ := Site.openNode_eq_ok hopened
    have hseat : opened.ledger.seat = site.ledger.seat.skip 1 := by
      obtain ⟨hseated, hone⟩ := spec.seated_openingSteps config site.ledger.seat target
      rw [Site.seat_of_follows hopening hseated hopened, hone]
    have hget : opened.elements.get? site.elements.next = some element := by
      rw [helements]
      exact Site.get?_introduced site element
    have hown : element.core.widget = some site.ledger.seat.widget := hwidget
    have hinside : opened.widgetOf site.elements.next = some site.ledger.seat.widget := by
      rw [Site.widgetOf, hget]
      exact hown
    refine .silent_bind (Act.perform_get opened) rfl ?_
    rw [hinside, ← hseat]
    refine (buildAll_follows (some site.ledger.seat.widget) children opened).bind ?_
    intro _ filled hfilled
    -- The children make elements of their own, so that the node's is found as it was left.
    have helders := buildAll_preserves (Plan.standard config) opened.elements
      (some site.ledger.seat.widget) children opened ⟨Nat.le_refl _, List.take_length⟩
    rw [hfilled] at helders
    have hkept : filled.elements.get? site.elements.next = some element :=
      Site.get?_of_elders helders hget
    have hbound : filled.bound =
        (filled.ledger.withElement site.elements.next ⟨element, filled.toolkit⟩).bound := by
      rw [Site.withElement_self hkept, Site.bound_eq]
    refine .silent_bind (Act.perform_get filled) rfl ?_
    have hclosing : Follows Site.ledger
        (Site.onElement site.elements.next (Element.postSubtree children filled.bound))
        (takeSteps (spec.closingSteps site.ledger.seat (children.map NodeTree.spec))) filled := by
      refine Site.onElement_follows hkept ?_
      rw [hbound]
      exact Element.postSubtree_follows _ _ hspec hown hrole children filled.toolkit
    exact hclosing.bind_silent fun _ _ _ => .pure _

/-- Building trees follows their steps. -/
theorem buildAll_follows (target : Option WidgetId) :
    ∀ (trees : List NodeTree) (site : Site Forest), Follows Site.ledger
      ((Plan.standard config).buildAll target trees)
      (takeSteps (NodeTree.stepsAll config site.ledger.seat target trees)) site
  | [], _ => .pure ()
  | tree :: rest, site => by
    have hfirst := build_follows target tree site
    rw [buildAll, NodeTree.stepsAll, takeSteps_append]
    refine hfirst.bind ?_
    intro _ built hbuilt
    obtain ⟨hseated, hcount⟩ := tree.seated_steps config site.ledger.seat target
    have hseat := Site.seat_of_follows hfirst hseated hbuilt
    rw [← hcount, ← hseat]
    exact buildAll_follows target rest built

end

/-- A build that succeeds gives the element that it made first. -/
theorem build_eq_ok {config : Config} {target : Option WidgetId} {tree : NodeTree}
    {site after : Site Forest} {ref : ElementRef}
    (hbuild : ((Plan.standard config).build target tree).perform site = (.ok ref, after)) :
    ref = site.elements.next := by
  obtain ⟨spec, children⟩ := tree
  have hfresh : (Act.ofExcept ((Plan.standard config).resolver.element spec)).perform site =
      (.ok (Site.freshElement spec), site) := by
    rw [Act.perform_ofExcept]
    exact congrArg (·, site) (element_standard spec)
  rw [build_node, Act.perform_bind_ok hfresh, Act.perform_bind_eq_ok_iff] at hbuild
  obtain ⟨first, opened, hopened, hrest⟩ := hbuild
  rw [Act.perform_bind_ok (Act.perform_get opened), Act.perform_bind_eq_ok_iff] at hrest
  obtain ⟨_, filled, -, hrest⟩ := hrest
  rw [Act.perform_bind_ok (Act.perform_get filled), Act.perform_bind_eq_ok_iff] at hrest
  obtain ⟨_, closed, -, href⟩ := hrest
  obtain ⟨hfirst, -⟩ := Site.openNode_eq_ok hopened
  cases href
  exact hfirst

/-- Whatever the tree, the settings, the target and the site, a build takes the steps of its tree in
order. Either all of them succeed, and so does the build, which is journalled by their entries; or
the build ends with the first step that fails, gives the error of that step and leaves what that
step left, and the journal holds the entries of the steps before and whatever that step was
journalled by when it failed. -/
theorem build_takes_steps (config : Config) (target : Option WidgetId) (tree : NodeTree)
    (site : Site Forest) :
    let steps := tree.steps config site.ledger.seat target
    let outcome := ((Plan.standard config).build target tree).perform site
    (outcome.1 = .ok site.elements.next ∧
      (takeSteps steps).perform site.ledger = (.ok (), outcome.2.ledger) ∧
      outcome.2.toolkit.history = site.toolkit.history ++ steps.flatMap BuildStep.entries) ∨
    ∃ before failed rest middle error,
      steps = before ++ failed :: rest ∧
      (takeSteps before).perform site.ledger = (.ok (), middle) ∧
      failed.act.perform middle = (.error error, outcome.2.ledger) ∧
      outcome.1 = .error error ∧
      outcome.2.toolkit.history = site.toolkit.history ++ before.flatMap BuildStep.entries ++
        failed.entriesOnFailure middle := by
  intro steps outcome
  obtain ⟨hseated, -⟩ := tree.seated_steps config site.ledger.seat target
  have hrun := (build_follows config target tree site).perform_eq
  rcases hbuild : ((Plan.standard config).build target tree).perform site with ⟨error | ref, after⟩
  · have houtcome : outcome = (.error error, after) := hbuild
    rw [hbuild] at hrun
    obtain ⟨before, failed, rest, middle, hsteps, hbefore, hfailed⟩ :=
      takeSteps_eq_error_iff.mp hrun
    rw [hsteps, seated_append] at hseated
    have hhistory := history_of_takeSteps hseated.1 hbefore
    have hlast := BuildStep.history_of_refused hfailed
    refine .inr ⟨before, failed, rest, middle, error, hsteps, hbefore, ?_, ?_, ?_⟩
    · rw [houtcome]
      exact hfailed
    · rw [houtcome]
    · rw [houtcome]
      rw [hhistory] at hlast
      exact hlast
  · have houtcome : outcome = (.ok ref, after) := hbuild
    rw [hbuild] at hrun
    refine .inl ⟨?_, ?_, ?_⟩
    · rw [houtcome, build_eq_ok hbuild]
    · rw [houtcome]
      exact hrun
    · rw [houtcome]
      exact history_of_takeSteps hseated hrun

end Plan

end WidgetTree
