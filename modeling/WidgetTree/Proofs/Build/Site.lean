import WidgetTree.Proofs.Build.Element
import WidgetTree.Proofs.Build.Run

namespace WidgetTree

namespace Site

section Views

variable (site : Site Forest)

/-- The ledger of a site knows of each element its id and its widget. -/
theorem get?_holders (ref : ElementRef) :
    site.ledger.holders[ref.index]? =
      (site.elements.get? ref).map fun element => ⟨element.id, element.widget⟩ :=
  List.getElem?_map

/-- The widget of an element is the one that the ledger has for it. -/
theorem widgetOf_eq (ref : ElementRef) :
    site.widgetOf ref = (site.ledger.holders[ref.index]?).bind Holder.widget := by
  rw [get?_holders, widgetOf]
  cases site.elements.get? ref <;> rfl

/-- Looking up what is bound under a name is a matter of the ledger. -/
theorem bound_eq : site.bound = site.ledger.bound := by
  funext name
  rw [bound, Registry.widget?, Ledger.bound]
  show _ = ((site.registry.get? name).bind fun ref => site.ledger.holders[ref.index]?).bind _
  cases site.registry.get? name with
  | none => rfl
  | some ref =>
    simp only [Option.bind_some]
    rw [get?_holders]
    cases site.elements.get? ref <;> rfl

/-- The id of an element is the one that the ledger has for it. -/
theorem idOf_eq (ref : ElementRef) : site.elements.idOf ref = site.ledger.nodeOf ref := by
  rw [Elements.idOf, Ledger.nodeOf, get?_holders]
  cases site.elements.get? ref <;> rfl

/-- The next seat is that of the next widget and the next element. -/
theorem seat_ledger : site.ledger.seat = ⟨site.toolkit.next, site.elements.next⟩ := by
  simp [Ledger.seat, ledger, Elements.next]

/-- Seen with an element as it is, a site has its own ledger. -/
theorem withElement_self {site : Site Forest} {ref : ElementRef} {element : Element}
    (hget : site.elements.get? ref = some element) :
    site.ledger.withElement ref ⟨element, site.toolkit⟩ = site.ledger := by
  obtain ⟨hlt, rfl⟩ := List.getElem?_eq_some_iff.mp hget
  simp only [Ledger.withElement, Ledger.withCore, ledger, Ledger.mk.injEq, and_true, true_and]
  apply List.ext_getElem?
  intro place
  by_cases hplace : ref.index = place
  · subst hplace
    simp [hlt, Element.id, Element.widget]
  · rw [List.getElem?_set_ne hplace]

end Views

section Steps

variable {site : Site Forest}

/-- Adding an element without a widget follows the step that introduces it. -/
theorem introduce_follows {element : Element} (hwidget : element.widget = none) :
    Follows ledger (introduce element) (Ledger.introduce element.id) site := by
  constructor
  · rfl
  · simp [introduce, Ledger.introduce, ledger, hwidget]

/-- Work on an element is done in the steps in which the element does it. -/
theorem onElement_follows {α : Type} {ref : ElementRef} {element : Element}
    {act : Act (Work Element Forest) α} {steps : Act Ledger Unit}
    (hget : site.elements.get? ref = some element)
    (hact : Follows (site.ledger.withElement ref) act steps ⟨element, site.toolkit⟩) :
    Follows ledger (onElement ref act) steps site := by
  have hself := withElement_self hget
  have hsteps := hact.perform_eq
  rw [hself] at hsteps
  constructor
  · rw [hsteps, onElement, Act.perform_mk, hget]
  · rw [hsteps, onElement, Act.perform_mk, hget]
    simp [ledger, Ledger.withElement, Ledger.withCore, Elements.put, List.map_set, Element.id,
      Element.widget]

/-- Work on an element that succeeds is work on the element that is referred to, which is put back
as it is left. -/
theorem onElement_eq_ok {α : Type} {ref : ElementRef} {element : Element}
    {act : Act (Work Element Forest) α} {result : α} {after : Site Forest}
    (hget : site.elements.get? ref = some element)
    (hact : (onElement ref act).perform site = (.ok result, after)) :
    ∃ work, act.perform ⟨element, site.toolkit⟩ = (.ok result, work) ∧
      after = { site with
        toolkit := work.toolkit
        elements := site.elements.put ref work.subject } := by
  rw [onElement, Act.perform_mk, hget] at hact
  obtain ⟨hresult, rfl⟩ := Prod.mk.inj hact
  exact ⟨_, Prod.ext hresult rfl, rfl⟩

/-- Binding a name leaves the elements and the toolkit. -/
theorem kept_of_bind {name : Option String} {ref : ElementRef} {policy : BindingPolicy}
    {result : Except BuildError Unit} {after : Site Forest}
    (hbind : (bind name ref policy).perform site = (result, after)) :
    after.elements = site.elements ∧ after.toolkit = site.toolkit := by
  cases name with
  | none =>
    cases hbind
    exact ⟨rfl, rfl⟩
  | some name =>
    rw [bind, Act.perform_bind_ok (Act.perform_get site)] at hbind
    rcases hregistry : site.registry.bind site.elements name ref policy with error | registry
    · rw [hregistry] at hbind
      cases hbind
      exact ⟨rfl, rfl⟩
    · rw [hregistry] at hbind
      cases hbind
      exact ⟨rfl, rfl⟩

/-- An element is bound in one step, if its node gives a name. -/
theorem bind_follows (name : Option String) (seat : Seat) (node : String)
    (policy : BindingPolicy) (hnode : site.ledger.nodeOf seat.ref = node) :
    Follows ledger (bind name seat.ref policy)
      (takeSteps (name.map fun name => BuildStep.bind seat node name policy).toList) site := by
  cases name with
  | none => exact .pure ()
  | some name =>
    subst hnode
    rw [Option.map_some, Option.toList_some, takeSteps_singleton]
    refine .silent_bind (Act.perform_get site) rfl ?_
    cases htaken : site.registry.get? name with
    | none =>
      constructor <;> simp [BuildStep.act, Ledger.bind, Registry.bind, Act.perform_bind, htaken,
        ledger, Except.map]
    | some taken =>
      have hholder := idOf_eq site
      cases policy <;> constructor <;>
        simp [BuildStep.act, Ledger.bind, Registry.bind, Act.perform_bind, htaken, ledger,
          Except.map, hholder]

end Steps

section Elements

variable {σ α : Type}

/-- Work on an element is done where it is, and changes nothing else at the site but the toolkit. -/
theorem perform_onElement {site : Site σ} {ref : ElementRef} {element : Element}
    (hget : site.elements.get? ref = some element) (act : Act (Work Element σ) α) :
    (onElement ref act).perform site =
      ((act.perform ⟨element, site.toolkit⟩).1,
        { site with
          toolkit := (act.perform ⟨element, site.toolkit⟩).2.toolkit
          elements := site.elements.put ref (act.perform ⟨element, site.toolkit⟩).2.subject }) := by
  rw [onElement, Act.perform_mk, hget]

/-- An element that is put back is found where it was, and all others as before. -/
theorem get?_put {elements : Elements} {ref : ElementRef} {before : Element}
    (hget : elements.get? ref = some before) (element : Element) (other : ElementRef) :
    (elements.put ref element).get? other =
      if other = ref then some element else elements.get? other := by
  obtain ⟨hlength, -⟩ := List.getElem?_eq_some_iff.mp hget
  by_cases hother : other = ref
  · subst hother
    rw [if_pos rfl, Elements.get?, Elements.put, List.getElem?_set_self hlength]
  · have hindex : ref.index ≠ other.index := by
      intro heq
      exact hother (by cases other; cases ref; simpa using heq.symm)
    rw [if_neg hother, Elements.get?, Elements.put, List.getElem?_set_ne hindex]
    rfl

/-- Putting an element in the place of another one leaves the others where they are. -/
theorem get?_put_cases {elements : Elements} {ref other : ElementRef}
    {before element found : Element} (hget : elements.get? ref = some before)
    (hfound : (elements.put ref element).get? other = some found) :
    other = ref ∧ found = element ∨ other ≠ ref ∧ elements.get? other = some found := by
  rw [get?_put hget] at hfound
  split at hfound
  · next hother => exact .inl ⟨hother, (Option.some.inj hfound).symm⟩
  · next hother => exact .inr ⟨hother, hfound⟩

/-- An element that is added comes behind the others. -/
theorem get?_append_cases {elements : Elements} {element found : Element} {ref : ElementRef}
    (hfound : Elements.get? (elements ++ [element]) ref = some found) :
    elements.get? ref = some found ∨ found = element ∧ elements.length ≤ ref.index := by
  rw [Elements.get?] at hfound
  by_cases hindex : ref.index < elements.length
  · rw [List.getElem?_append_left hindex] at hfound
    exact .inl hfound
  · rw [List.getElem?_append_right (by omega)] at hfound
    have hmem := List.mem_of_getElem? hfound
    exact .inr ⟨List.mem_singleton.mp hmem, by omega⟩

end Elements

section Elders

variable {σ : Type}

/-- The elements that were made first are these, as they are. -/
def Elders (elders : List Element) (site : Site σ) : Prop :=
  elders.length ≤ site.elements.length ∧ site.elements.take elders.length = elders

variable {elders : List Element}

private theorem introduce_preserves (element : Element) :
    Act.Preserves (Elders elders) (introduce element : Act (Site σ) ElementRef) := by
  rintro site ⟨hlength, htake⟩
  refine ⟨?_, ?_⟩
  · simp only [introduce, Act.perform_mk, List.length_append]
    omega
  · simp only [introduce, Act.perform_mk]
    rw [List.take_append_of_le_length hlength, htake]

private theorem onElement_preserves {α : Type} {ref : ElementRef}
    (hlater : elders.length ≤ ref.index)
    (act : Act (Work Element σ) α) : Act.Preserves (Elders elders) (onElement ref act) := by
  rintro site ⟨hlength, htake⟩
  rw [onElement, Act.perform_mk]
  cases site.elements.get? ref with
  | none => exact ⟨hlength, htake⟩
  | some element =>
    refine ⟨?_, ?_⟩
    · simpa [Elements.put] using hlength
    · dsimp only [Elements.put]
      rw [List.take_set_of_le hlater, htake]

private theorem bind_preserves (name : Option String) (ref : ElementRef) (policy : BindingPolicy) :
    Act.Preserves (Elders elders) (bind name ref policy : Act (Site σ) Unit) := by
  cases name with
  | none => exact .pure ()
  | some name =>
    intro site helders
    rw [bind, Act.perform_bind_ok (Act.perform_get site)]
    cases hbind : site.registry.bind site.elements name ref policy with
    | error error => exact helders
    | ok registry => exact helders

end Elders

end Site

namespace Plan

variable {σ : Type} [Toolkit σ] (plan : Plan)

/-- What a build does for a node before its children are built. -/
def openNode (target : Option WidgetId) (spec : NodeSpec) (element : Element) :
    Act (Site σ) ElementRef := do
  let ref ← Site.introduce element
  Site.onElement ref (Element.build plan.config target)
  Site.bind spec.binding ref plan.config.bindingPolicy
  return ref

/-- A node is opened, its children are built inside its widget, and then it is finished. -/
theorem build_node (target : Option WidgetId) (spec : NodeSpec) (children : List NodeTree) :
    (plan.build target (.node spec children) : Act (Site σ) ElementRef) = do
      let element ← Act.ofExcept (plan.resolver.element spec)
      let ref ← plan.openNode target spec element
      let site ← get
      plan.buildAll (site.widgetOf ref) children
      let site ← get
      Site.onElement ref (Element.postSubtree children site.bound)
      return ref := by
  rw [build]
  simp only [openNode, bind_assoc, pure_bind]

mutual

/-- Building a tree leaves all elements that were made before, whether or not it succeeds. -/
theorem build_preserves (elders : List Element) (target : Option WidgetId) :
    ∀ tree : NodeTree,
      Act.Preserves (Site.Elders elders) (plan.build target tree : Act (Site σ) ElementRef)
  | .node spec children => by
    rw [build]
    refine .bind (.ofExcept _) fun element => .bind_of (Site.introduce_preserves element) ?_
    intro site ref after helders hintroduced
    have hlater : elders.length ≤ ref.index := by
      cases hintroduced
      exact helders.1
    refine .bind (Site.onElement_preserves hlater _) fun _ => ?_
    refine .bind (Site.bind_preserves _ _ _) fun _ => .bind .get fun site => ?_
    refine .bind (buildAll_preserves elders _ children) fun _ => .bind .get fun site => ?_
    exact .bind (Site.onElement_preserves hlater _) fun _ => .pure ref

/-- Building trees leaves the elders. -/
theorem buildAll_preserves (elders : List Element) (target : Option WidgetId) :
    ∀ trees : List NodeTree,
      Act.Preserves (Site.Elders elders) (plan.buildAll target trees : Act (Site σ) Unit)
  | [] => .pure ()
  | tree :: rest => by
    rw [buildAll]
    exact .bind (build_preserves elders target tree) fun _ =>
      buildAll_preserves elders target rest

end

end Plan

end WidgetTree
