import WidgetTree.Proofs.Build.Step
import WidgetTree.Proofs.Forest.Construct

namespace WidgetTree

variable {ω α β : Type}

/-- From some state an act succeeds if and only if the steps do, fails as they do, and leaves what
they leave, as far as the view goes. An act in the course of another follows the steps that are its
share. -/
structure Follows (view : ω → Ledger) (act : Act ω α) (steps : Act Ledger Unit) (state : ω) :
    Prop where
  result : (act.perform state).1.map (fun _ => ()) = (steps.perform (view state)).1
  ledger : view (act.perform state).2 = (steps.perform (view state)).2

namespace Follows

variable {view : ω → Ledger} {act : Act ω α} {steps : Act Ledger Unit} {state : ω}

/-- The steps give and leave what the act does, as far as the view goes. -/
theorem perform_eq (hfollows : Follows view act steps state) :
    steps.perform (view state) =
      ((act.perform state).1.map (fun _ => ()), view (act.perform state).2) := by
  rw [hfollows.result, hfollows.ledger]

/-- An act that succeeds and changes nothing in view follows no steps. -/
theorem silent {result : α} {after : ω} (hact : act.perform state = (.ok result, after))
    (hview : view after = view state) : Follows view act (pure ()) state := by
  constructor
  · rw [hact]
    rfl
  · rw [hact]
    exact hview

theorem pure (result : α) : Follows view (Pure.pure result : Act ω α) (Pure.pure ()) state :=
  ⟨rfl, rfl⟩

/-- An act follows steps that fail with its error, if neither has changed anything. -/
theorem failed {error : BuildError} (hact : act.perform state = (.error error, state))
    (hsteps : steps.perform (view state) = (.error error, view state)) :
    Follows view act steps state := by
  constructor
  · rw [hact, hsteps]
    rfl
  · rw [hact, hsteps]

/-- An act follows steps if it follows others that come to the same. -/
theorem congr {other : Act Ledger Unit} (hfollows : Follows view act other state)
    (hsteps : steps.perform (view state) = other.perform (view state)) :
    Follows view act steps state :=
  ⟨hsteps ▸ hfollows.result, hsteps ▸ hfollows.ledger⟩

/-- An act goes on after another, where that one succeeded, as the steps go on. -/
theorem bind {next : α → Act ω β} {more : Act Ledger Unit} (hfirst : Follows view act steps state)
    (hsecond : ∀ result after, act.perform state = (.ok result, after) →
      Follows view (next result) more after) :
    Follows view (act >>= next) (steps >>= fun _ => more) state := by
  have hsteps := hfirst.perform_eq
  cases hact : act.perform state with
  | mk outcome after =>
    rw [hact] at hsteps
    cases outcome with
    | error error =>
      constructor
      · rw [Act.perform_bind_error hact, Act.perform_bind_error hsteps]
        rfl
      · rw [Act.perform_bind_error hact, Act.perform_bind_error hsteps]
    | ok result =>
      have hnext := hsecond result after hact
      constructor
      · rw [Act.perform_bind_ok hact, Act.perform_bind_ok hsteps]
        exact hnext.result
      · rw [Act.perform_bind_ok hact, Act.perform_bind_ok hsteps]
        exact hnext.ledger

/-- What the view does not see takes no step, and the act goes on. -/
theorem silent_bind {next : α → Act ω β} {result : α} {after : ω}
    (hact : act.perform state = (.ok result, after)) (hview : view after = view state)
    (hnext : Follows view (next result) steps after) :
    Follows view (act >>= next) steps state := by
  constructor
  · rw [Act.perform_bind_ok hact, hnext.result, hview]
  · rw [Act.perform_bind_ok hact, hnext.ledger, hview]

/-- What comes after the last step may be anything that the view does not see. -/
theorem bind_silent {next : α → Act ω β} (hfirst : Follows view act steps state)
    (hnext : ∀ result after, act.perform state = (.ok result, after) →
      Follows view (next result) (Pure.pure ()) after) :
    Follows view (act >>= next) steps state := by
  have hboth := hfirst.bind hnext
  rwa [bind_pure_unit] at hboth

variable {ρ σ π : Type}

private theorem inToolkit {view : Work ρ σ → Ledger} {act : Act σ α} {work : Work ρ σ}
    (hfollows : Follows (fun toolkit => view { work with toolkit }) act steps work.toolkit) :
    Follows view (Act.inToolkit act) steps work :=
  ⟨hfollows.result, hfollows.ledger⟩

/-- An act on the forest is followed by doing the same to the forest of a ledger. -/
theorem inForest (act : Act Forest α) (ledger : Ledger) (forest : Forest) :
    Follows (fun forest => { ledger with forest }) act
      (Ledger.inForest do
        let _ ← act
        Pure.pure ()) forest := by
  constructor
  · rw [Ledger.inForest, Act.perform_mk, Act.perform_bind]
    rcases act.perform forest with ⟨error | result, after⟩ <;> rfl
  · rw [Ledger.inForest, Act.perform_mk, Act.perform_bind]
    rcases act.perform forest with ⟨error | result, after⟩ <;> rfl

end Follows

/-- The ledger with one element as it is in the course of work on its core. -/
def Ledger.withCore (ledger : Ledger) (ref : ElementRef) (work : Work Core Forest) : Ledger :=
  { ledger with
    forest := work.toolkit
    holders := ledger.holders.set ref.index ⟨work.subject.id, work.subject.widget⟩ }

namespace Core

section Deeds

variable (ledger : Ledger) {core : Core} {widget : WidgetId} (forest : Forest)

/-- A call in the name of a node follows the step of that call. -/
theorem call_follows (node : String) (widget : WidgetId) (made : Call) :
    Follows (fun forest => { ledger with forest }) (Core.call node widget made)
      (BuildStep.work node widget (.call made)).act forest :=
  .inForest _ ledger forest

private theorem callAll_follows (node : String) (widget : WidgetId) (calls : List Call) :
    Follows (fun forest => { ledger with forest }) (callAll node widget calls)
      (takeSteps (calls.map fun made => .work node widget (.call made))) forest := by
  induction calls generalizing forest with
  | nil => exact .pure ()
  | cons made rest ih =>
    have hfirst := call_follows ledger forest node widget made
    exact hfirst.bind fun _ after _ => ih after

private theorem assignAll_follows (node : String) (widget : WidgetId) (attributes : Fields Value) :
    Follows (fun forest => { ledger with forest }) (assignAll node widget attributes)
      (takeSteps (attributes.map fun entry => .work node widget (.assign entry.1 entry.2)))
      forest := by
  induction attributes generalizing forest with
  | nil => exact .pure ()
  | cons entry rest ih =>
    have hfirst := Follows.inForest (Act.ofOperation (.toolkit node)
      (Forest.setAttribute widget entry.1 entry.2)) ledger forest
    rw [bind_pure_unit] at hfirst
    exact hfirst.bind fun _ after _ => ih after

/-- An element that has its widget can be asked for it. -/
theorem perform_requireWidget {ω : Type} (hwidget : core.widget = some widget) (state : ω) :
    (Act.ofExcept core.requireWidget).perform state = (.ok widget, state) := by
  rw [Act.perform_ofExcept, requireWidget, hwidget]

/-- Without a widget no call is made. -/
theorem perform_invoke_none (hwidget : core.widget = none) (made : Call) (forest : Forest) :
    (core.invoke made).perform forest =
      (.error (.configuration core.id "element has no widget (not built or destroyed)"),
        forest) := by
  rw [invoke, Act.perform_bind, Act.perform_ofExcept, requireWidget, hwidget]

/-- A call of an element is a call of its widget, and its error is described in the name of the
node. -/
theorem perform_invoke (hwidget : core.widget = some widget) (made : Call) (forest : Forest) :
    (core.invoke made).perform forest =
      ((forest.invoke widget made).1.mapError (.ofInvoke core.id made.method),
        (forest.invoke widget made).2) := by
  rw [invoke, Act.perform_bind_ok (perform_requireWidget hwidget forest), call,
    Act.perform_ofOperation]
  rfl

/-- A widget that is no window is attached as its node or the configuration says. -/
theorem attach_follows (hwidget : core.widget = some widget) (config : Config)
    (hroot : Kind.of? core.spec ≠ some .root) :
    Follows (fun forest => { ledger with forest }) (core.attach config)
      (takeSteps ((core.spec.placing config).map (.work core.id widget))) forest := by
  rw [attach]
  refine .silent_bind (perform_requireWidget hwidget forest) rfl ?_
  cases hstrategy : core.spec.attachStrategy.or config.defaultAttachStrategy with
  | none =>
    simp only [NodeSpec.placing, NodeSpec.attachmentIn, hroot, if_false, hstrategy, Option.map_none,
      Option.toList_none, List.map_nil]
    exact .pure ()
  | some strategy =>
    simp only [NodeSpec.placing, NodeSpec.attachmentIn, hroot, if_false, hstrategy, Option.map_some,
      Option.toList_some, List.map_cons, List.map_nil, takeSteps_singleton]
    have hattach := Follows.inForest (Act.ofOperation (.ofAttach core.id)
      (Forest.attach widget strategy core.spec.attachArgs)) ledger forest
    rwa [bind_pure_unit] at hattach

/-- Configuring a core follows the steps that furnish its widget. -/
theorem configure_follows (hwidget : core.widget = some widget) :
    Follows (fun forest => { ledger with forest }) core.configure
      (takeSteps (core.spec.furnishing.map (.work core.id widget))) forest := by
  rw [configure, NodeSpec.furnishing, List.map_append, takeSteps_append, List.map_map, List.map_map]
  refine .bind ?_ fun _ after _ => ?_
  · exact .silent_bind (perform_requireWidget hwidget forest) rfl
      (assignAll_follows ledger forest core.id widget _)
  · rw [applySequence, NodeSpec.sequenceCalls]
    cases core.spec.sequence with
    | none => exact .pure ()
    | some sequence =>
      exact .silent_bind (perform_requireWidget hwidget after) rfl
        (callAll_follows ledger after core.id widget _)

/-- A window is given a text that is configured, and otherwise left as it is. -/
theorem callWith_follows (hwidget : core.widget = some widget) (method : String)
    (text : Option String) :
    Follows (fun forest => { ledger with forest }) (callWith method text core)
      (takeSteps ((text.map fun text => Deed.call (windowCall method text)).toList.map
        (.work core.id widget))) forest := by
  cases text with
  | none => exact .pure ()
  | some text =>
    have hcall := call_follows ledger forest core.id widget (windowCall method text)
    have hinvoke : Follows (fun forest => { ledger with forest })
        (core.invoke (windowCall method text))
        (BuildStep.work core.id widget (.call (windowCall method text))).act forest :=
      .silent_bind (perform_requireWidget hwidget forest) rfl hcall
    simp only [Option.map_some, Option.toList_some, List.map_cons, List.map_nil,
      takeSteps_singleton]
    exact hinvoke.bind_silent fun _ _ _ => .pure ()

/-- Running the hook of a core follows the steps of its calls. -/
theorem runHook_follows (hwidget : core.widget = some widget) :
    Follows (fun forest => { ledger with forest }) core.runHook
      (takeSteps (core.spec.hook.map fun made => .work core.id widget (.call made))) forest := by
  rw [runHook]
  split
  · next hhook =>
    rw [hhook]
    exact .pure ()
  · exact .silent_bind (perform_requireWidget hwidget forest) rfl
      (callAll_follows ledger forest core.id widget _)

end Deeds

section Building

variable (ledger : Ledger) (ref : ElementRef) {work after : Work Core Forest}

/-- Work for a core that leaves it is work in the forest alone. -/
theorem perform_thenDo (act : Core → Act Forest α) (core : Core) (forest : Forest) :
    (thenDo act).perform ⟨core, forest⟩ =
      (((act core).perform forest).1, ⟨core, ((act core).perform forest).2⟩) := rfl

/-- Work for a core that succeeds leaves the core. -/
theorem thenDo_eq_ok {act : Core → Act Forest α} {core : Core} {forest : Forest} {result : α}
    (hact : (thenDo act).perform ⟨core, forest⟩ = (.ok result, after)) :
    (act core).perform forest = (.ok result, after.toolkit) ∧ after.subject = core := by
  rw [perform_thenDo, Prod.mk.injEq] at hact
  obtain ⟨hresult, rfl⟩ := hact
  exact ⟨Prod.ext hresult rfl, rfl⟩

/-- Work for a core leaves the core. -/
theorem subject_thenDo {act : Core → Act Forest α} {result : α}
    (hact : (thenDo act).perform work = (.ok result, after)) : after.subject = work.subject := by
  have hsubject := congrArg (fun outcome => outcome.2.subject) hact
  exact hsubject.symm

/-- Work for a core follows the steps that it follows in the forest. -/
theorem thenDo_follows {act : Core → Act Forest α} {steps : Act Ledger Unit}
    (hact : Follows (fun forest => { ledger.withCore ref work with forest }) (act work.subject)
      steps work.toolkit) : Follows (ledger.withCore ref) (thenDo act) steps work :=
  .silent_bind (Act.perform_subject work) rfl (.inToolkit hact)

/-- A construction gives its widget to the core, and leaves the core if it fails. -/
theorem perform_construct (widgetType : String) (target : Option WidgetId) (core : Core)
    (forest : Forest) :
    (construct widgetType target).perform ⟨core, forest⟩ =
      match Forest.construct widgetType target core.spec.constructorArgs forest with
      | (.ok widget, after) => (.ok widget, ⟨{ core with widget := some widget, target }, after⟩)
      | (.error error, after) => (.error (.toolkit core.id error), ⟨core, after⟩) := by
  have hoperation := Act.perform_ofOperation (.toolkit core.id)
    (Toolkit.construct widgetType target core.spec.constructorArgs) forest
  have hinside := Act.perform_inToolkit (Act.ofOperation (.toolkit core.id)
    (Toolkit.construct widgetType target core.spec.constructorArgs)) ⟨core, forest⟩
  change _ = ((Forest.construct widgetType target core.spec.constructorArgs forest).1.mapError _,
    (Forest.construct widgetType target core.spec.constructorArgs forest).2) at hoperation
  dsimp only at hinside
  rw [hoperation] at hinside
  rw [construct, Act.perform_bind_ok (Act.perform_subject _)]
  rcases houtcome : Forest.construct widgetType target core.spec.constructorArgs forest with
    ⟨error | widget, after⟩
  · rw [houtcome] at hinside
    exact Act.perform_bind_error hinside _
  · rw [houtcome] at hinside
    exact Act.perform_bind_ok hinside _

/-- Constructing the widget of a core follows the step of the construction. -/
theorem construct_follows (widgetType : String) (target : Option WidgetId) (core : Core)
    (forest : Forest) :
    Follows (ledger.withCore ref) (construct widgetType target)
      (Ledger.construct ref core.spec.id (some widgetType) target core.spec.constructorArgs)
      ⟨core, forest⟩ := by
  have hact := perform_construct widgetType target core forest
  have hsteps := Ledger.perform_construct ref core.spec.id widgetType target
    core.spec.constructorArgs (ledger.withCore ref ⟨core, forest⟩)
  change _ = (match Forest.construct widgetType target core.spec.constructorArgs forest with
    | (.ok widget, forest) => _
    | (.error error, forest) => _) at hsteps
  rcases houtcome : Forest.construct widgetType target core.spec.constructorArgs forest with
    ⟨error | widget, after⟩
  · rw [houtcome] at hact hsteps
    constructor
    · rw [hact, hsteps]
      rfl
    · rw [hact, hsteps]
      rfl
  · rw [houtcome] at hact hsteps
    constructor
    · rw [hact, hsteps]
      rfl
    · rw [hact, hsteps]
      simp [Ledger.withCore, id]

/-- A construction that succeeds gives the next widget to the core, and changes nothing else of
it that matters to later steps. -/
theorem construct_eq_ok {widgetType : String} {target : Option WidgetId} {widget : WidgetId}
    {core : Core} {forest : Forest}
    (hconstruct : (construct widgetType target).perform ⟨core, forest⟩ = (.ok widget, after)) :
    after.subject.widget = some forest.next ∧ after.subject.spec = core.spec := by
  rw [perform_construct] at hconstruct
  rcases Forest.construct_cases widgetType target core.spec.constructorArgs forest with
    ⟨error, hcase⟩ | ⟨-, -, hcase⟩
  · rw [hcase] at hconstruct
    cases hconstruct
  · rw [hcase] at hconstruct
    cases hconstruct
    exact ⟨rfl, rfl⟩

end Building

end Core

end WidgetTree
