import WidgetTree.Proofs.Build.Sprout
import WidgetTree.Proofs.Build.Work

namespace WidgetTree

namespace Site

/-- From a seat on, the elements and widgets that were there have stayed as they were. Once a node
is finished, nothing that comes behind concerns its subtree any more; so what is left of that at the
end, whether or not the build succeeds, is what the node's own finish has left. -/
structure Rests (first : Seat) (before after : Site Forest) : Prop where
  length : before.elements.length ≤ after.elements.length
  constructed : before.toolkit.constructed ≤ after.toolkit.constructed
  elements : ∀ ref : ElementRef, first.ref.index ≤ ref.index →
    ref.index < before.elements.length → after.elements.get? ref = before.elements.get? ref
  records : ∀ widget : WidgetId, first.widget.number ≤ widget.number →
    widget.number ≤ before.toolkit.constructed →
    after.toolkit.record? widget = before.toolkit.record? widget
  children : ∀ widget : WidgetId, first.widget.number ≤ widget.number →
    widget.number ≤ before.toolkit.constructed →
    after.toolkit.children widget = before.toolkit.children widget

namespace Rests

variable {first : Seat} {before middle after : Site Forest}

private theorem refl (first : Seat) (site : Site Forest) : Rests first site site where
  length := Nat.le_refl _
  constructed := Nat.le_refl _
  elements _ _ _ := rfl
  records _ _ _ := rfl
  children _ _ _ := rfl

private theorem trans (hearly : Rests first before middle) (hlate : Rests first middle after) :
    Rests first before after where
  length := hearly.length.trans hlate.length
  constructed := hearly.constructed.trans hlate.constructed
  elements ref hfirst hmade := by
    rw [hlate.elements ref hfirst (hmade.trans_le hearly.length), hearly.elements ref hfirst hmade]
  records widget hfirst hmade := by
    rw [hlate.records widget hfirst (hmade.trans hearly.constructed),
      hearly.records widget hfirst hmade]
  children widget hfirst hmade := by
    rw [hlate.children widget hfirst (hmade.trans hearly.constructed),
      hearly.children widget hfirst hmade]

/-- The element of an older node is finished. -/
theorem finish {ref : ElementRef} {element : Element} {widget : WidgetId}
    {children : List NodeTree} {bound : String → Option WidgetId}
    {result : Except BuildError Unit} (hget : before.elements.get? ref = some element)
    (hwidget : element.core.widget = some widget) (href : ref.index < first.ref.index)
    (holder : widget.number < first.widget.number)
    (hfinish : (onElement ref (Element.postSubtree children bound)).perform before =
      (result, after)) : Rests first before after := by
  rw [perform_onElement hget] at hfinish
  have hworks := Element.postSubtree_worksOn hwidget children bound ⟨element, before.toolkit⟩
    ⟨rfl, .refl widget _⟩
  obtain ⟨-, htouches⟩ := hworks
  obtain ⟨-, rfl⟩ := Prod.mk.inj hfinish
  refine
    { length := ?_
      constructed := ?_
      elements := ?_
      records := ?_
      children := ?_ }
  · simp [Elements.put]
  · exact htouches.constructed.ge
  · intro other hfirst _
    have hother : other ≠ ref := by
      rintro rfl
      omega
    exact (get?_put hget _ other).trans (if_neg hother)
  · intro other hfirst _
    apply htouches.others
    rintro rfl
    omega
  · intro other _ _
    exact htouches.children other

end Rests

end Site

namespace Plan

variable {config : Config} {target : Option WidgetId} {site after : Site Forest}

private theorem buildAll_append {σ : Type} [Toolkit σ] (plan : Plan) (target : Option WidgetId)
    (before behind : List NodeTree) :
    (plan.buildAll target (before ++ behind) : Act (Site σ) Unit) =
      plan.buildAll target before >>= fun _ => plan.buildAll target behind := by
  induction before with
  | nil => rw [List.nil_append, buildAll, pure_bind]
  | cons tree rest ih => rw [List.cons_append, buildAll, buildAll, ih, bind_assoc]

private theorem reachable_of_follows {α : Type} {act : Act (Site Forest) α} {steps : List BuildStep}
    {result : Except BuildError α} (hfollows : Follows Site.ledger act (takeSteps steps) site)
    (hreachable : site.toolkit.Reachable) (hact : act.perform site = (result, after)) :
    after.toolkit.Reachable := by
  have hkept := takeSteps_preserves steps site.ledger hreachable
  rw [hfollows.perform_eq, hact] at hkept
  exact hkept

private theorem reachable_of_opened {spec : NodeSpec} {ref : ElementRef} {trees : List NodeTree}
    {opened : Site Forest} (hreachable : site.toolkit.Reachable)
    (hopen : ((Plan.standard config).openNode target spec (Site.freshElement spec)).perform site =
      (.ok ref, opened))
    (hbuild : ((Plan.standard config).buildAll (opened.widgetOf ref) trees).perform opened =
      (.ok (), after)) : after.toolkit.Reachable := by
  have hopened : opened.toolkit.Reachable :=
    reachable_of_follows (Site.openNode_follows config target spec site) hreachable hopen
  exact reachable_of_follows (buildAll_follows config _ trees opened) hopened hbuild

private theorem seat_of_buildAll {trees : List NodeTree}
    (hbuild : ((Plan.standard config).buildAll target trees).perform site = (.ok (), after)) :
    ∃ nodes, after.ledger.seat = site.ledger.seat.skip nodes := by
  obtain ⟨hseated, -⟩ := NodeTree.seated_stepsAll config site.ledger.seat target trees
  exact ⟨_, Site.seat_of_follows (buildAll_follows config target trees site) hseated hbuild⟩

/-- Elements that were made before a build are found as they were. -/
theorem get?_of_build {tree : NodeTree} {ref : ElementRef} {element : Element}
    {result : Except BuildError ElementRef} (hget : site.elements.get? ref = some element)
    (hbuild : ((Plan.standard config).build target tree).perform site = (result, after)) :
    after.elements.get? ref = some element := by
  have helders := build_preserves (Plan.standard config) site.elements target tree site
    ⟨Nat.le_refl _, List.take_length⟩
  rw [hbuild] at helders
  exact Site.get?_of_elders helders hget

/-- Building trees leaves every element that was there. -/
theorem get?_of_buildAll {trees : List NodeTree} {ref : ElementRef} {element : Element}
    {result : Except BuildError Unit} (hget : site.elements.get? ref = some element)
    (hbuild : ((Plan.standard config).buildAll target trees).perform site = (result, after)) :
    after.elements.get? ref = some element := by
  have helders := buildAll_preserves (Plan.standard config) site.elements target trees site
    ⟨Nat.le_refl _, List.take_length⟩
  rw [hbuild] at helders
  exact Site.get?_of_elders helders hget

/-- A build leaves all elements and widgets that were there, except that a list of widgets that is
older than the seat may have got one more. -/
theorem build_rests {first : Seat} {tree : NodeTree} {result : Except BuildError ElementRef}
    (hreachable : site.toolkit.Reachable)
    (htarget : ∀ outer ∈ target, outer.number < first.widget.number)
    (hbuild : ((Plan.standard config).build target tree).perform site = (result, after)) :
    site.Rests first after := by
  have helders := build_preserves (Plan.standard config) site.elements target tree site
    ⟨Nat.le_refl _, List.take_length⟩
  rw [hbuild] at helders
  have helements : ∀ ref : ElementRef, first.ref.index ≤ ref.index →
      ref.index < site.elements.length → after.elements.get? ref = site.elements.get? ref := by
    intro ref _ hmade
    have hget : site.elements.get? ref = some site.elements[ref.index] :=
      List.getElem?_eq_getElem hmade
    rw [hget]
    exact get?_of_build hget hbuild
  rcases sprouted_of_build hreachable.sound hbuild with hsprouted | ⟨htoolkit, -⟩
  · refine
      { length := helders.1
        constructed := hsprouted.forest.constructed.le
        elements := helements
        records := fun widget _ hmade => hsprouted.forest.records widget hmade
        children := ?_ }
    intro widget hfirst hmade
    have helse : target ≠ some widget := by
      rintro rfl
      have holder := htarget widget rfl
      omega
    have hlist := hsprouted.forest.children widget hmade
    rwa [if_neg helse, List.append_nil] at hlist
  · refine ⟨helders.1, ?_, helements, ?_, ?_⟩ <;> rw [htoolkit]
    · exact fun _ _ _ => rfl
    · exact fun _ _ _ => rfl

private theorem buildAll_rests {first : Seat} {trees : List NodeTree}
    {result : Except BuildError Unit} (hreachable : site.toolkit.Reachable)
    (htarget : ∀ outer ∈ target, outer.number < first.widget.number)
    (hbuild : ((Plan.standard config).buildAll target trees).perform site = (result, after)) :
    site.Rests first after := by
  induction trees generalizing site with
  | nil =>
    cases hbuild
    exact .refl first _
  | cons tree rest ih =>
    rw [buildAll, Act.perform_bind] at hbuild
    rcases hfirst : ((Plan.standard config).build target tree).perform site with
      ⟨error | ref, middle⟩
    · rw [hfirst] at hbuild
      cases hbuild
      exact build_rests hreachable htarget hfirst
    · rw [hfirst] at hbuild
      exact (build_rests hreachable htarget hfirst).trans
        (ih (reachable_of_build hreachable hfirst) hbuild)

/-- Once a node is opened, its children are built inside its widget, and then it is finished. -/
theorem build_opened {spec : NodeSpec} {children : List NodeTree} {ref : ElementRef}
    {opened : Site Forest}
    (hopen : ((Plan.standard config).openNode target spec (Site.freshElement spec)).perform site =
      (.ok ref, opened)) :
    ((Plan.standard config).build target (.node spec children)).perform site =
      (do
        (Plan.standard config).buildAll (opened.widgetOf ref) children
        let filled ← get
        Site.onElement ref (Element.postSubtree children filled.bound)
        return ref : Act (Site Forest) ElementRef).perform opened := by
  have hfresh : (Act.ofExcept ((Plan.standard config).resolver.element spec)).perform site =
      (.ok (Site.freshElement spec), site) := by
    rw [Act.perform_ofExcept]
    exact congrArg (·, site) (element_standard spec)
  rw [build_node, Act.perform_bind_ok hfresh, Act.perform_bind_ok hopen,
    Act.perform_bind_ok (Act.perform_get opened)]

/-- When a child of an older node was built, the children behind it are built and the node is
finished. -/
theorem behind_rests {first : Seat} {ref : ElementRef} {element : Element} {widget : WidgetId}
    {children behind : List NodeTree} {result : Except BuildError ElementRef}
    (hreachable : site.toolkit.Reachable)
    (hget : site.elements.get? ref = some element) (hwidget : element.core.widget = some widget)
    (href : ref.index < first.ref.index) (holder : widget.number < first.widget.number)
    (hrest : (do
      (Plan.standard config).buildAll (some widget) behind
      let filled ← get
      Site.onElement ref (Element.postSubtree children filled.bound)
      return ref : Act (Site Forest) ElementRef).perform site = (result, after)) :
    site.Rests first after := by
  have htarget : ∀ outer ∈ some widget, outer.number < first.widget.number := by
    rintro outer ⟨⟩
    exact holder
  rw [Act.perform_bind] at hrest
  rcases hfill : ((Plan.standard config).buildAll (some widget) behind).perform site with
    ⟨error | _, filled⟩
  · rw [hfill] at hrest
    cases hrest
    exact buildAll_rests hreachable htarget hfill
  · have hfilled := buildAll_rests hreachable htarget hfill
    rw [hfill] at hrest
    dsimp only at hrest
    rw [Act.perform_bind_ok (Act.perform_get filled), Act.perform_bind] at hrest
    rcases hfinish : (Site.onElement ref (Element.postSubtree children filled.bound)).perform filled
      with ⟨finish, finished⟩
    have hfinished : site.Rests first finished :=
      hfilled.trans (.finish (get?_of_buildAll hget hfill) hwidget href holder hfinish)
    rw [hfinish] at hrest
    cases finish with
    | error error | ok =>
      cases hrest
      exact hfinished

end Plan

/-- In a build of a tree at a site, a node of the tree was opened at `start`, and its children were
built, which has left `filled`. What comes before the node in the tree was built, and the nodes
around it were opened. -/
inductive Fills (config : Config) (spec : NodeSpec) (children : List NodeTree)
    (start filled : Site Forest) : Option WidgetId → NodeTree → Site Forest → Prop
  | own {target : Option WidgetId} {ref : ElementRef} {opened : Site Forest}
    (hopen : ((Plan.standard config).openNode target spec (Site.freshElement spec)).perform start =
      (.ok ref, opened))
    (hfill : ((Plan.standard config).buildAll (opened.widgetOf ref) children).perform opened =
      (.ok (), filled)) : Fills config spec children start filled target (.node spec children) start
  | inside {target : Option WidgetId} {outer : NodeSpec} {before behind : List NodeTree}
    {tree : NodeTree} {ref : ElementRef} {site opened middle : Site Forest}
    (hopen : ((Plan.standard config).openNode target outer (Site.freshElement outer)).perform site =
      (.ok ref, opened))
    (hbefore : ((Plan.standard config).buildAll (opened.widgetOf ref) before).perform opened =
      (.ok (), middle))
    (hinner : Fills config spec children start filled (opened.widgetOf ref) tree middle) :
    Fills config spec children start filled target (.node outer (before ++ tree :: behind)) site

namespace Site

variable {config : Config} {target : Option WidgetId} {spec : NodeSpec} {ref : ElementRef}
variable {site opened : Site Forest}

/-- A node that was opened is the newest: it has taken one seat, and its element is found. -/
theorem opened_eq_ok
    (hopen : ((Plan.standard config).openNode target spec (freshElement spec)).perform site =
      (.ok ref, opened)) :
    opened.ledger.seat = site.ledger.seat.skip 1 ∧
      opened.widgetOf ref = some site.ledger.seat.widget ∧
      ∃ element, opened.elements.get? ref = some element ∧ ref = site.ledger.seat.ref ∧
        element.core.widget = some site.ledger.seat.widget := by
  obtain ⟨rfl, element, helements, hwidget, -, -⟩ := openNode_eq_ok hopen
  obtain ⟨hseated, hone⟩ := spec.seated_openingSteps config site.ledger.seat target
  have hseat := seat_of_follows (openNode_follows config target spec site) hseated hopen
  have hget : opened.elements.get? site.elements.next = some element := by
    rw [helements]
    exact get?_introduced site element
  have hown : opened.widgetOf site.elements.next = some site.ledger.seat.widget := by
    rw [widgetOf, hget]
    exact hwidget
  rw [hone] at hseat
  refine ⟨hseat, hown, element, hget, ?_, hwidget⟩
  rw [seat_ledger]

end Site

namespace Fills

variable {config : Config} {spec : NodeSpec} {children : List NodeTree}
variable {target : Option WidgetId} {tree : NodeTree} {site start filled after : Site Forest}

/-- The node's seat comes behind those of all that was built before it. -/
theorem seat_eq (hfills : Fills config spec children start filled target tree site) :
    ∃ nodes, start.ledger.seat = site.ledger.seat.skip nodes := by
  induction hfills with
  | own => exact ⟨0, rfl⟩
  | @inside target outer before behind tree ref site opened middle hopen hbefore hinner ih =>
    obtain ⟨nodes, hnodes⟩ := ih
    obtain ⟨hopened, -⟩ := Site.opened_eq_ok hopen
    obtain ⟨more, hmore⟩ := Plan.seat_of_buildAll hbefore
    exact ⟨1 + (more + nodes), by rw [hnodes, hmore, hopened, Seat.skip_skip, Seat.skip_skip]⟩

/-- Where a node was opened in the course of a build, the forest is as reachable as at the beginning
of the build. -/
theorem reachable (hfills : Fills config spec children start filled target tree site)
    (hreachable : site.toolkit.Reachable) : start.toolkit.Reachable := by
  induction hfills with
  | own => exact hreachable
  | @inside target outer before behind tree ref site opened middle hopen hbefore hinner ih =>
    exact ih (Plan.reachable_of_opened hreachable hopen hbefore)

/-- When a node's children are built, the node is finished. The build fails if that fails, and
whatever comes of it, elements and widgets from the node's seat on stay as the finish has left
them. -/
theorem rests (hfills : Fills config spec children start filled target tree site)
    (hreachable : site.toolkit.Reachable) {result : Except BuildError ElementRef}
    (hbuild : ((Plan.standard config).build target tree).perform site = (result, after)) :
    ∃ finish finished, (Site.onElement start.ledger.seat.ref
        (Element.postSubtree children filled.bound)).perform filled = (finish, finished) ∧
      (∀ error, finish = .error error → result = .error error) ∧
      ((∃ ref, result = .ok ref) → finish = .ok ()) ∧
      finished.Rests start.ledger.seat after := by
  induction hfills generalizing result after with
  | @own target ref opened hopen hfill =>
    obtain ⟨-, -, element, -, rfl, -⟩ := Site.opened_eq_ok hopen
    rw [Plan.build_opened hopen, Act.perform_bind_ok hfill,
      Act.perform_bind_ok (Act.perform_get filled), Act.perform_bind] at hbuild
    rcases hfinish : (Site.onElement start.ledger.seat.ref
      (Element.postSubtree children filled.bound)).perform filled with ⟨error | _, finished⟩
    · rw [hfinish] at hbuild
      cases hbuild
      exact ⟨_, _, rfl, fun _ herror => congrArg _ (Except.error.inj herror), nofun, .refl _ _⟩
    · rw [hfinish] at hbuild
      cases hbuild
      exact ⟨_, _, rfl, nofun, fun _ => rfl, .refl _ _⟩
  | @inside target outer before behind tree ref site opened middle hopen hbefore hinner ih =>
    have hmiddle : middle.toolkit.Reachable := Plan.reachable_of_opened hreachable hopen hbefore
    rw [Plan.build_opened hopen, Plan.buildAll_append, bind_assoc, Act.perform_bind_ok hbefore]
      at hbuild
    rw [Plan.buildAll, bind_assoc, Act.perform_bind] at hbuild
    rcases hchild : ((Plan.standard config).build (opened.widgetOf ref) tree).perform middle with
      ⟨error | made, grown⟩
    · rw [hchild] at hbuild
      cases hbuild
      exact ih hmiddle hchild
    · obtain ⟨finish, finished, hfinish, -, hok, hrests⟩ := ih hmiddle hchild
      rw [hchild] at hbuild
      refine ⟨finish, finished, hfinish, ?_, fun _ => hok ⟨made, rfl⟩, hrests.trans ?_⟩
      · intro error herror
        cases herror.symm.trans (hok ⟨made, rfl⟩)
      · obtain ⟨hseat, hown, element, hget, rfl, hwidget⟩ := Site.opened_eq_ok hopen
        obtain ⟨nodes, hnodes⟩ := hinner.seat_eq
        obtain ⟨more, hmore⟩ := Plan.seat_of_buildAll hbefore
        rw [hown] at hbuild hchild
        have hkept := Plan.get?_of_build (Plan.get?_of_buildAll hget hbefore) hchild
        refine Plan.behind_rests (Plan.reachable_of_build hmiddle hchild) hkept hwidget ?_ ?_ hbuild
        · rw [hnodes, hmore, hseat]
          simp only [Seat.skip]
          omega
        · rw [hnodes, hmore, hseat]
          simp only [Seat.skip]
          omega

end Fills

end WidgetTree
