import WidgetTree.Proofs.Build.Session
import WidgetTree.Proofs.Register.Notebook

namespace WidgetTree

open Text Forest

/-- All bindings among the steps refuse names that are taken. -/
def Refusing (steps : List BuildStep) : Prop :=
  ∀ seat node name policy, .bind seat node name policy ∈ steps → policy = .reject

private theorem Grounded.refusing {steps : List BuildStep} (hgrounded : Grounded .reject steps) :
    Refusing steps := by
  intro seat node name policy hmem
  obtain ⟨before, rest, rfl⟩ := List.append_of_mem hmem
  exact (hgrounded before seat node name policy rest rfl).1

private theorem refusing_append {first second : List BuildStep} :
    Refusing (first ++ second) ↔ Refusing first ∧ Refusing second := by
  simp only [Refusing, List.mem_append, or_imp, forall_and]

private theorem Refusing.of_cons {step : BuildStep} {rest : List BuildStep}
    (hrefusing : Refusing (step :: rest)) : Refusing rest := by
  intro seat node name policy hmem
  exact hrefusing seat node name policy (List.mem_cons_of_mem _ hmem)

namespace Place

/-- The widget is that of the last node among these that gives the name. Where newer elements get
the names, this is the one that is found. -/
def LastNamed (places : List Place) (name : String) (widget : WidgetId) : Prop :=
  ∃ earlier place later, places = earlier ++ place :: later ∧ place.spec.binding = some name ∧
    (∀ other ∈ later, other.spec.binding ≠ some name) ∧ widget = place.widget

/-- If some node gives a name, there is a last one that does. -/
theorem exists_lastNamed {places : List Place} {name : String}
    (hgiven : ∃ place ∈ places, place.spec.binding = some name) :
    ∃ earlier place later, places = earlier ++ place :: later ∧ place.spec.binding = some name ∧
      ∀ other ∈ later, other.spec.binding ≠ some name := by
  induction places using List.reverseRecOn with
  | nil => simp at hgiven
  | append_singleton before last ih =>
    by_cases hlast : last.spec.binding = some name
    · exact ⟨before, last, [], rfl, hlast, nofun⟩
    · have hbefore : ∃ place ∈ before, place.spec.binding = some name := by
        obtain ⟨place, hplace, hname⟩ := hgiven
        rcases List.mem_append.mp hplace with hearly | hsame
        · exact ⟨place, hearly, hname⟩
        · obtain rfl := List.mem_singleton.mp hsame
          exact absurd hname hlast
      obtain ⟨earlier, place, later, rfl, hname, hlater⟩ := ih hbefore
      refine ⟨earlier, place, later ++ [last], by simp, hname, ?_⟩
      intro other hother
      rcases List.mem_append.mp hother with hearly | hsame
      · exact hlater other hearly
      · obtain rfl := List.mem_singleton.mp hsame
        exact hlast

end Place

section Bound

variable {ledger after : Ledger} {steps : List BuildStep} {name : String}

/-- Where names are refused, what is bound under a name stays bound. -/
theorem get?_of_takeSteps {ref : ElementRef} (hrefusing : Refusing steps)
    (hseated : Seated ledger.seat steps) (hget : ledger.registry.get? name = some ref)
    (hrun : (takeSteps steps).perform ledger = (.ok (), after)) :
    after.registry.get? name = some ref := by
  induction steps generalizing ledger with
  | nil =>
    cases hrun
    exact hget
  | cons step rest ih =>
    obtain ⟨middle, hstep, hrest⟩ := takeSteps_cons_eq_ok_iff.mp hrun
    have hseat := BuildStep.seat_of_taken hseated.1 hstep
    refine ih hrefusing.of_cons (hseat ▸ hseated.2) ?_ hrest
    cases step with
    | construct | work | checkPages | addPage =>
      rw [BuildStep.registry_of_unbound rfl hseated.1 hstep, hget]
    | bind seat node other policy =>
      obtain ⟨hfree, rfl⟩ := Ledger.bind_eq_ok hstep
      have hnew := hfree (hrefusing seat node other policy List.mem_cons_self)
      have hother : other ≠ name := by
        rintro rfl
        exact hnew (Table.mem_keys_of_get? hget)
      rw [Table.get?_insert, if_neg hother, hget]

/-- What is bound under a name when all steps were taken was bound last. -/
theorem registry_of_takeSteps (hseated : Seated ledger.seat steps)
    (hrun : (takeSteps steps).perform ledger = (.ok (), after)) :
    after.registry = ledger.registry.insertAll ((bondsOf steps).map Bond.entry) := by
  induction steps generalizing ledger with
  | nil =>
    cases hrun
    rfl
  | cons step rest ih =>
    obtain ⟨middle, hstep, hrest⟩ := takeSteps_cons_eq_ok_iff.mp hrun
    have hseat := BuildStep.seat_of_taken hseated.1 hstep
    rw [ih (hseat ▸ hseated.2) hrest]
    cases step with
    | construct | work | checkPages | addPage =>
      rw [BuildStep.registry_of_unbound rfl hseated.1 hstep]
      rfl
    | bind seat node other own =>
      obtain ⟨-, rfl⟩ := Ledger.bind_eq_ok hstep
      rfl

end Bound

namespace NodeTree

variable {config : Config} {parent : Option WidgetId}

/-- Where names are refused, the element of a node that gives a name is found under it, and has the
widget that was constructed for the node. -/
theorem bound_of_steps (hpolicy : config.bindingPolicy = .reject) (tree : NodeTree)
    {ledger after : Ledger} {name : String} (hname : tree.spec.binding = some name)
    (hrun : (takeSteps (tree.steps config ledger.seat parent)).perform ledger = (.ok (), after)) :
    after.registry.get? name = some ledger.seat.ref ∧
      after.holders[ledger.seat.ref.index]? = some ⟨tree.spec.id, some ledger.seat.widget⟩ := by
  refine ⟨?_, holders_of_steps tree hrun⟩
  obtain ⟨spec, children⟩ := tree
  obtain ⟨hseated, -⟩ := seated_steps config ledger.seat parent (.node spec children)
  have hrefusing : Refusing ((NodeTree.node spec children).steps config ledger.seat parent) :=
    (hpolicy ▸ grounded_steps config ledger.seat parent (.node spec children)).refusing
  rw [steps, List.append_assoc] at hrun hseated hrefusing
  obtain ⟨opened, hopen, hrest⟩ := takeSteps_append_eq_ok_iff.mp hrun
  obtain ⟨hopening, hlater⟩ := seated_append.mp hseated
  rw [← seat_of_takeSteps hopening hopen] at hlater
  refine get?_of_takeSteps (refusing_append.mp hrefusing).2 hlater ?_ hrest
  change spec.binding = some name at hname
  rw [registry_of_takeSteps hopening hopen, NodeSpec.bondsOf_openingSteps, hname,
    Table.get?_insertAll]
  simp [Bond.entry, Table.get?]

/-- Where names are refused, the children that give a name are found under it. -/
theorem bound_of_stepsAll (hpolicy : config.bindingPolicy = .reject) :
    ∀ (trees : List NodeTree) {ledger after : Ledger},
    (takeSteps (stepsAll config ledger.seat parent trees)).perform ledger = (.ok (), after) →
    List.Forall₂ (fun tree top => ∀ name ∈ tree.spec.binding, after.bound name = some top) trees
      (tops ledger.seat trees)
  | [], _, _, _ => .nil
  | tree :: rest, ledger, after, hrun => by
    obtain ⟨hseated, -⟩ := seated_stepsAll config ledger.seat parent (tree :: rest)
    have hrefusing : Refusing (stepsAll config ledger.seat parent (tree :: rest)) :=
      (hpolicy ▸ grounded_stepsAll config ledger.seat parent (tree :: rest)).refusing
    rw [stepsAll] at hrun hseated hrefusing
    obtain ⟨middle, hfirst, hrest⟩ := takeSteps_append_eq_ok_iff.mp hrun
    obtain ⟨hahead, hlater⟩ := seated_append.mp hseated
    have hseat := seat_of_takeSteps hahead hfirst
    rw [← hseat] at hlater
    rw [(seated_steps config ledger.seat parent tree).2] at hseat
    refine .cons ?_ ?_
    · intro name hname
      obtain ⟨hget, hheld⟩ := bound_of_steps hpolicy tree hname hfirst
      obtain ⟨more, hmore⟩ := holders_prefix_of_takeSteps hlater hrest
      obtain ⟨hlt, -⟩ := List.getElem?_eq_some_iff.mp hheld
      have hkept := get?_of_takeSteps (refusing_append.mp hrefusing).2 hlater hget hrest
      rw [Ledger.bound, hkept, Option.bind_some, ← hmore, List.getElem?_append_left hlt, hheld]
      rfl
    · rw [← hseat] at hrest ⊢
      exact bound_of_stepsAll hpolicy rest hrest

/-- The topmost widgets of several trees are those of their top nodes. -/
theorem forall₂_tops (parent : Option WidgetId) : ∀ (trees : List NodeTree) (seat : Seat),
    List.Forall₂ (fun tree top => ∃ place ∈ placesAll seat parent trees,
      place.spec = tree.spec ∧ place.parent = parent ∧ place.widget = top) trees (tops seat trees)
  | [], _ => .nil
  | .node spec children :: rest, seat => by
    refine .cons ⟨⟨spec, seat, parent, tops (seat.skip 1) children⟩, ?_, rfl, rfl, rfl⟩ ?_
    · rw [placesAll, places]
      exact List.mem_cons_self
    · refine (forall₂_tops parent rest _).imp ?_
      rintro tree top ⟨place, hplace, htop⟩
      exact ⟨place, List.mem_append_right _ hplace, htop⟩

/-- If a name is given, the widget of the last node that gives it is found under it. -/
theorem bound_last {trees : List NodeTree} {ledger after : Ledger} {name : String}
    (hgiven : ∃ tree ∈ trees, tree.spec.binding = some name)
    (hrun : (takeSteps (stepsAll config ledger.seat parent trees)).perform ledger =
      (.ok (), after)) :
    ∃ widget, after.bound name = some widget ∧
      Place.LastNamed (placesAll ledger.seat parent trees) name widget := by
  obtain ⟨tree, htree, hname⟩ := hgiven
  have hnamed : ∃ place ∈ placesAll ledger.seat parent trees, place.spec.binding = some name := by
    have htops := forall₂_tops parent trees ledger.seat
    obtain ⟨index, hindex, rfl⟩ := List.getElem_of_mem htree
    obtain ⟨place, hplace, hspec, -⟩ := htops.get hindex (htops.length_eq ▸ hindex)
    exact ⟨place, hplace, hspec ▸ hname⟩
  obtain ⟨earlier, place, later, hplaces, hgives, hlast⟩ := Place.exists_lastNamed hnamed
  refine ⟨place.widget, ?_, earlier, place, later, hplaces, hgives, hlast, rfl⟩
  obtain ⟨hseated, -⟩ := seated_stepsAll config ledger.seat parent trees
  have hgrounded := grounded_stepsAll config ledger.seat parent trees
  have hbonds : bondsOf (stepsAll config ledger.seat parent trees) =
      earlier.filterMap Place.bond? ++ ⟨place.seat, place.spec.id, name⟩ ::
        later.filterMap Place.bond? := by
    rw [bondsOf_stepsAll, hplaces, List.filterMap_append, List.filterMap_cons_some]
    rw [Place.bond?, hgives, Option.map_some]
  have hget : after.registry.get? name = some place.seat.ref := by
    rw [registry_of_takeSteps hseated hrun, hbonds]
    refine get?_insertAll_last ledger.registry ?_
    intro hmem
    obtain ⟨other, hother, hsame⟩ := List.mem_map.mp hmem
    obtain ⟨behind, hbehind, hbond⟩ := List.mem_filterMap.mp hother
    obtain ⟨given, hgiven, rfl⟩ := Option.map_eq_some_iff.mp hbond
    exact hlast behind hbehind (hgiven.trans (congrArg some hsame))
  have hheld : after.holders[place.seat.ref.index]? = some ⟨place.spec.id, some place.widget⟩ := by
    have hbond : ⟨place.seat, place.spec.id, name⟩ ∈
        bondsOf (stepsAll config ledger.seat parent trees) := by
      rw [hbonds]
      exact List.mem_append_right _ List.mem_cons_self
    obtain ⟨step, hstep, hmade⟩ := List.mem_filterMap.mp hbond
    cases step with
    | construct | work | checkPages | addPage => cases hmade
    | bind seat node given policy =>
      cases hmade
      obtain ⟨before, rest, hsplit⟩ := List.append_of_mem hstep
      obtain ⟨-, widgetType, target, args, hconstruct⟩ :=
        hgrounded before _ _ _ policy rest hsplit
      have hmem : .construct place.seat place.spec.id widgetType target args ∈
          stepsAll config ledger.seat parent trees := by
        rw [hsplit]
        exact List.mem_append_left _ hconstruct
      exact (constructed_of_takeSteps hseated hrun hmem).1
  rw [Ledger.bound, hget, Option.bind_some, hheld]
  rfl

end NodeTree

/-- Where every child that gives a name is found, either a child gives none, and the first of these
is named, or all pages are found. -/
theorem Element.pages_eq (register : String) {bound : String → Option WidgetId}
    {children : List NodeTree} {widgets : List WidgetId}
    (hbound : List.Forall₂ (fun child widget => ∀ name ∈ child.spec.binding,
      bound name = some widget) children widgets) :
    pages register bound children =
      match children.find? (·.spec.binding = none) with
      | some child => .error (.configuration child.spec.id
          ("child of register " ++ backquote register ++
            " has no binding_name; register pages must be bound"))
      | none => .ok (List.zip (children.map (·.spec.id)) widgets) := by
  induction hbound with
  | nil => rfl
  | @cons child widget rest others hchild hrest ih =>
    rw [pages]
    cases hbinding : child.spec.binding with
    | none =>
      rw [List.find?_cons_of_pos (by simp [hbinding])]
      rfl
    | some name =>
      rw [List.find?_cons_of_neg (by simp [hbinding])]
      dsimp only
      rw [hchild name hbinding]
      dsimp only
      rw [ih]
      cases rest.find? (·.spec.binding = none) <;> rfl

end WidgetTree
