import WidgetTree.Proofs.Build.Trace
import WidgetTree.Proofs.Forest.Reachable
import WidgetTree.Proofs.Forest.Sprout

namespace WidgetTree

namespace BuildStep

/-- The step concerns no widget that is older than `top`. -/
def Within (top : WidgetId) : BuildStep → Prop
  | construct _ _ _ target _ => ∃ outer, target = some outer ∧ top.number ≤ outer.number
  | work _ widget _ => top.number ≤ widget.number
  | bind .. => True
  | checkPages .. => True
  | addPage _ widget _ => top.number ≤ widget.number

end BuildStep

/-- The ledger of a build whose topmost widget was constructed: the forest has sprouted, and
elements made since have widgets of the new subtree. All steps behind the first concern that widget
or widgets inside it, so that what is left of a build that failed is the top of a subtree with all
else inside it. -/
structure Ledger.Sprouted (base : Ledger) (target : Option WidgetId) (ledger : Ledger) : Prop where
  forest : Forest.Sprouted base.forest target ledger.forest
  holders : ∀ index holder, base.holders.length ≤ index → ledger.holders[index]? = some holder →
    ∀ widget ∈ holder.widget, base.forest.next.number ≤ widget.number

namespace Ledger.Sprouted

variable {base ledger after : Ledger} {target : Option WidgetId}

private theorem of_forest (hsprouted : base.Sprouted target ledger)
    (hforest : Forest.Sprouted base.forest target after.forest)
    (hholders : after.holders = ledger.holders) : base.Sprouted target after :=
  ⟨hforest, hholders ▸ hsprouted.holders⟩

/-- A new element has a widget of the new subtree or none. -/
theorem holders_append (hsprouted : base.Sprouted target ledger) {newest : Holder}
    (hnewest : ∀ widget ∈ newest.widget, base.forest.next.number ≤ widget.number) (index : Nat)
    (holder : Holder) (hlater : base.holders.length ≤ index)
    (hget : (ledger.holders ++ [newest])[index]? = some holder) :
    ∀ widget ∈ holder.widget, base.forest.next.number ≤ widget.number := by
  by_cases hindex : index < ledger.holders.length
  · rw [List.getElem?_append_left hindex] at hget
    exact hsprouted.holders index holder hlater hget
  · rw [List.getElem?_append_right (by omega), List.getElem?_singleton] at hget
    split at hget
    · obtain rfl := Option.some.inj hget
      exact hnewest
    · cases hget

/-- A step that stays within the new subtree keeps a ledger sprouted, whether or not it succeeds. -/
theorem step (hsprouted : base.Sprouted target ledger) {step : BuildStep}
    (hseated : step.SeatedAt ledger.seat) (hwithin : step.Within base.forest.next)
    {result : Except BuildError Unit} (hstep : step.act.perform ledger = (result, after)) :
    base.Sprouted target after := by
  cases step with
  | construct seat node widgetType outer args =>
    obtain ⟨parent, rfl, hinside⟩ := hwithin
    cases result with
    | error error =>
      rw [BuildStep.construct_eq_error hstep]
      refine ⟨hsprouted.forest, hsprouted.holders_append ?_⟩
      simp
    | ok _ =>
      obtain rfl := hseated
      obtain ⟨name, -, hparent, rfl⟩ := BuildStep.construct_eq_ok hstep
      have hlive : parent ∈ ledger.forest.live := hparent parent rfl
      refine ⟨hsprouted.forest.plant hlive hinside name args, hsprouted.holders_append ?_⟩
      rintro widget ⟨⟩
      have hgrown := hsprouted.forest.constructed
      simp only [seat, Forest.number_next]
      omega
  | work node widget deed =>
    obtain ⟨-, htouches, hafter⟩ := BuildStep.work_spec hstep
    refine hsprouted.of_forest (hsprouted.forest.touches hwithin htouches) ?_
    rw [hafter]
  | bind seat node name policy =>
    have hkept := BuildStep.holders_of_unseated rfl hstep
    refine hsprouted.of_forest ?_ hkept
    cases result with
    | error error =>
      rw [(Ledger.bind_eq_error hstep).1]
      exact hsprouted.forest
    | ok _ =>
      rw [(Ledger.bind_eq_ok hstep).2]
      exact hsprouted.forest
  | checkPages register children =>
    rw [(BuildStep.checkPages_spec hstep).1]
    exact hsprouted
  | addPage register widget child =>
    obtain ⟨htouches, -, hafter⟩ := BuildStep.addPage_spec hstep
    refine hsprouted.of_forest (hsprouted.forest.touches hwithin htouches) ?_
    rw [hafter]

/-- Steps within the new subtree keep a ledger sprouted up to wherever they fail. -/
theorem takeSteps (hsprouted : base.Sprouted target ledger) {steps : List BuildStep}
    (hseated : Seated ledger.seat steps) (hwithin : ∀ step ∈ steps, step.Within base.forest.next)
    {result : Except BuildError Unit}
    (hrun : (WidgetTree.takeSteps steps).perform ledger = (result, after)) :
    base.Sprouted target after := by
  refine kept_of_takeSteps (base.Sprouted target) ?_ hseated hsprouted hrun
  intro step hmem before outcome left hseat hbefore hstep
  exact hbefore.step hseat (hwithin step hmem) hstep

end Ledger.Sprouted

namespace NodeTree

variable (config : Config) {top : WidgetId}

private theorem within_settlingSteps {seat : Seat} (hseat : top.number ≤ seat.widget.number)
    (spec : NodeSpec) : ∀ step ∈ spec.settlingSteps config seat, step.Within top := by
  intro step hstep
  rcases NodeSpec.settlingSteps_cases config seat spec hstep with ⟨deed, rfl⟩ | ⟨name, rfl⟩
  · exact hseat
  · trivial

private theorem within_closingSteps {seat : Seat} (hseat : top.number ≤ seat.widget.number)
    (spec : NodeSpec) (children : List NodeSpec) :
    ∀ step ∈ spec.closingSteps seat children, step.Within top := by
  intro step hstep
  rcases NodeSpec.closingSteps_cases seat spec hstep with ⟨made, rfl⟩ | rfl | ⟨child, rfl⟩
  · exact hseat
  · trivial
  · exact hseat

mutual

/-- All steps of a tree that is built inside a widget stay within it. -/
theorem within_steps {outer : WidgetId} (houter : top.number ≤ outer.number) :
    ∀ (tree : NodeTree) (seat : Seat), top.number ≤ seat.widget.number →
      ∀ step ∈ tree.steps config seat (some outer), step.Within top
  | node spec children, seat, hseat => by
    intro step hstep
    rw [steps, NodeSpec.openingSteps_eq] at hstep
    simp only [List.cons_append, List.mem_cons, List.mem_append] at hstep
    rcases hstep with rfl | (hsettle | hinner) | hclose
    · exact ⟨outer, rfl, houter⟩
    · exact within_settlingSteps config hseat spec step hsettle
    · have hskip : top.number ≤ (seat.skip 1).widget.number := Nat.le_add_right_of_le hseat
      exact within_stepsAll hseat children (seat.skip 1) hskip step hinner
    · exact within_closingSteps hseat spec _ step hclose

private theorem within_stepsAll {outer : WidgetId} (houter : top.number ≤ outer.number) :
    ∀ (trees : List NodeTree) (seat : Seat), top.number ≤ seat.widget.number →
      ∀ step ∈ stepsAll config seat (some outer) trees, step.Within top
  | [], _, _ => by simp [stepsAll]
  | tree :: rest, seat, hseat => by
    intro step hstep
    rw [stepsAll] at hstep
    have hskip : top.number ≤ (seat.skip tree.count).widget.number := Nat.le_add_right_of_le hseat
    rcases List.mem_append.mp hstep with hfirst | hlater
    · exact within_steps houter tree seat hseat step hfirst
    · exact within_stepsAll houter rest (seat.skip tree.count) hskip step hlater

end

/-- The steps of a tree, taken up to wherever they fail, make the forest sprout, or change nothing
in it where the first construction fails. -/
theorem sprouted_of_takeSteps (tree : NodeTree) {target : Option WidgetId} {ledger after : Ledger}
    {result : Except BuildError Unit} (hsound : ledger.forest.Sound)
    (hrun : (takeSteps (tree.steps config ledger.seat target)).perform ledger = (result, after)) :
    ledger.Sprouted target after ∨
      after = { ledger with holders := ledger.holders ++ [⟨tree.spec.id, none⟩] } ∧
        ∃ error, result = .error error := by
  obtain ⟨spec, children⟩ := tree
  have hseated := (seated_steps config ledger.seat target (.node spec children)).1
  rw [steps, NodeSpec.openingSteps_eq, List.cons_append, List.cons_append] at hrun hseated
  rw [takeSteps] at hrun
  rcases hstep : (BuildStep.construct ledger.seat spec.id (spec.typeIn config) target
    spec.constructorArgs).act.perform ledger with ⟨error | _, middle⟩
  · rw [Act.perform_bind_error hstep] at hrun
    cases hrun
    exact .inr ⟨BuildStep.construct_eq_error hstep, error, rfl⟩
  · rw [Act.perform_bind_ok hstep] at hrun
    have hseat := BuildStep.seat_of_taken hseated.1 hstep
    obtain ⟨name, -, hparent, rfl⟩ := BuildStep.construct_eq_ok hstep
    have hplanted : ledger.Sprouted target
        { forest := ledger.forest.plant name target spec.constructorArgs
          holders := ledger.holders ++ [⟨spec.id, some ledger.seat.widget⟩]
          registry := ledger.registry } := by
      refine ⟨.of_plant hsound hparent name spec.constructorArgs, ?_⟩
      intro index holder hlater hget
      rw [List.getElem?_append_right hlater, List.getElem?_singleton] at hget
      split at hget
      · obtain rfl := Option.some.inj hget
        rintro widget ⟨⟩
        exact Nat.le_refl _
      · cases hget
    refine .inl (hplanted.takeSteps (hseat ▸ hseated.2) ?_ hrun)
    intro step hstep
    rw [List.append_assoc, List.mem_append, List.mem_append] at hstep
    have hown : ledger.forest.next.number ≤ ledger.seat.widget.number := Nat.le_refl _
    rcases hstep with hsettle | hinner | hclose
    · exact within_settlingSteps config hown spec step hsettle
    · exact within_stepsAll config hown children _ (Nat.le_succ_of_le hown) step hinner
    · exact within_closingSteps hown spec _ step hclose

end NodeTree

section Reachable

/-- All that steps do is served by the forest request by request. -/
theorem Deed.act_preserves (deed : Deed) (node : String) (widget : WidgetId) :
    Act.Preserves Forest.Reachable (deed.act node widget) := by
  have hcall (made : Call) (forest : Forest) (hreachable : forest.Reachable) :
      ((makeCall node widget made).perform forest).2.Reachable := by
    rw [perform_makeCall]
    exact hreachable.serve (.invoke widget made)
  intro forest hreachable
  cases deed with
  | attach strategy args =>
    rw [act, Act.perform_ofOperation]
    exact hreachable.serve (.attach widget strategy args)
  | assign name value =>
    rw [act, Act.perform_ofOperation]
    exact hreachable.serve (.setAttribute widget name value)
  | call made => exact hcall made forest hreachable
  | shareVariable =>
    rw [perform_shareVariable]
    exact hcall _ _ (hreachable.serve (.createVariable (.int 0)))

/-- A step leads from a reachable forest to a reachable one. -/
theorem BuildStep.act_preserves (step : BuildStep) :
    Act.Preserves (fun ledger => ledger.forest.Reachable) step.act := by
  intro ledger hreachable
  cases step with
  | construct seat node widgetType target args =>
    cases widgetType with
    | none => exact hreachable
    | some name =>
      have hserve : (ledger.forest.construct name target args).2.Reachable :=
        hreachable.serve (.construct name target args)
      have hintroduced : (Ledger.introduce node).perform ledger =
          (.ok (), { ledger with holders := ledger.holders ++ [⟨node, none⟩] }) := rfl
      rw [act, Act.perform_bind_ok hintroduced, Ledger.perform_construct]
      rcases hcase : Forest.construct name target args ledger.forest with ⟨error | made, after⟩
      · rw [hcase] at hserve
        exact hserve
      · rw [hcase] at hserve
        exact hserve
  | work node widget deed => exact deed.act_preserves node widget ledger.forest hreachable
  | bind seat node name policy =>
    rw [BuildStep.act, Ledger.bind, Act.perform_mk]
    split <;> exact hreachable
  | checkPages register children => exact hreachable
  | addPage register widget child =>
    rw [perform_addPage]
    cases ledger.page register child with
    | error error => exact hreachable
    | ok page =>
      exact (Deed.call (Element.addTab child.id page)).act_preserves register widget ledger.forest
        hreachable

/-- Steps lead from a reachable forest to a reachable one. -/
theorem takeSteps_preserves (steps : List BuildStep) :
    Act.Preserves (fun ledger => ledger.forest.Reachable) (takeSteps steps) := by
  induction steps with
  | nil => exact .pure ()
  | cons step rest ih => exact .bind step.act_preserves fun _ => ih

end Reachable

namespace Plan

variable {config : Config} {target : Option WidgetId} {tree : NodeTree}
variable {site after : Site Forest}

/-- What a build leaves of a reachable forest is reachable, whether or not the build succeeds. -/
theorem reachable_of_build {result : Except BuildError ElementRef}
    (hreachable : site.toolkit.Reachable)
    (hbuild : ((Plan.standard config).build target tree).perform site = (result, after)) :
    after.toolkit.Reachable := by
  have hsteps := (build_follows config target tree site).perform_eq
  have hkept := takeSteps_preserves (tree.steps config site.ledger.seat target) site.ledger
    hreachable
  rw [hsteps, hbuild] at hkept
  exact hkept

/-- A build that fails leaves the toolkit as it was but for the subtree that it has begun, if it has
begun it; one that succeeds leaves it as it was but for its subtree. -/
theorem sprouted_of_build {result : Except BuildError ElementRef} (hsound : site.toolkit.Sound)
    (hbuild : ((Plan.standard config).build target tree).perform site = (result, after)) :
    site.ledger.Sprouted target after.ledger ∨
      after.toolkit = site.toolkit ∧ ∃ error, result = .error error := by
  have hsteps := (build_follows config target tree site).perform_eq
  rw [hbuild] at hsteps
  rcases tree.sprouted_of_takeSteps config hsound hsteps with hsprouted | ⟨hafter, error, herror⟩
  · exact .inl hsprouted
  · refine .inr ⟨congrArg Ledger.forest hafter, error, ?_⟩
    cases result with
    | ok ref => cases herror
    | error other => exact congrArg _ (Except.error.inj herror)

/-- Whatever a build leaves, all that has come is the subtree of the widget constructed first. -/
theorem addsSubtree_of_build {result : Except BuildError ElementRef} (hsound : site.toolkit.Sound)
    (hbuild : ((Plan.standard config).build target tree).perform site = (result, after)) :
    site.toolkit.AddsSubtree after.toolkit := by
  rcases sprouted_of_build hsound hbuild with hsprouted | ⟨htoolkit, -⟩
  · exact hsprouted.forest.addsSubtree hsound
  · rw [htoolkit]
    intro widget
    rw [Forest.walk_of_not_mem hsound.next_not_live]
    simp

end Plan

end WidgetTree
