import WidgetTree.Proofs.Controls.Build

namespace WidgetTree

open Forest

/-- The element's widget, if it has one, names this command or none, and is of the class that is
meant, so far as the node declares that one. -/
structure Element.Wired (forest : Forest) (command : Option CommandId) (element : Element) :
    Prop where
  free : element.core.spec.HandleFree
  built : element.core.state = .built → element.core.widget ≠ none
  widget : ∀ widget ∈ element.core.widget, ∃ widgetType,
    Suits element.role.control? element.core.spec widgetType ∧
      forest.Bears widget widgetType command

private theorem Element.wired_ofSpec (forest : Forest) (role : Role) {spec : NodeSpec}
    (hfree : spec.HandleFree) : (Element.ofSpec role spec).Wired forest none :=
  ⟨hfree, nofun, nofun⟩

/-- What leaves the record of its widget leaves the element with its command. -/
theorem Element.Wired.of_records {forest left : Forest} {command : Option CommandId}
    {element : Element} (hwired : element.Wired forest command)
    (hrecords : ∀ widget ∈ element.core.widget, left.record? widget = forest.record? widget)
    (hcount : forest.heldValues.length ≤ left.heldValues.length) :
    element.Wired left command where
  free := hwired.free
  built := hwired.built
  widget widget hown := by
    obtain ⟨widgetType, hsuits, hbears⟩ := hwired.widget widget hown
    exact ⟨widgetType, hsuits, hbears.of_record (hrecords widget hown) hcount⟩

namespace Site

/-- The widget of another element than the one that is referred to. -/
def Elsewhere (site : Site Forest) (ref : ElementRef) (widget : WidgetId) : Prop :=
  ∃ other element, other ≠ ref ∧ site.elements.get? other = some element ∧
    element.core.widget = some widget

/-- Each element is wired to the command that it was told, and has a widget of its own. So many
commands were registered, and these were fired. -/
structure Wired (told : ElementRef → Option CommandId) (commands : Nat) (fired : List CommandId)
    (site : Site Forest) : Prop where
  sound : site.toolkit.Sound
  commands : site.toolkit.commands = commands
  fired : site.toolkit.fired = fired
  untold : ∀ ref : ElementRef, site.elements.length ≤ ref.index → told ref = none
  elements : ∀ {ref element}, site.elements.get? ref = some element →
    element.Wired site.toolkit (told ref)
  apart : ∀ {ref element widget}, site.elements.get? ref = some element →
    element.core.widget = some widget → ¬ site.Elsewhere ref widget

variable {told : ElementRef → Option CommandId} {commands : Nat} {fired : List CommandId}
variable {site : Site Forest}

namespace Wired

variable (hwired : site.Wired told commands fired)
include hwired

/-- A site stays wired where elements and toolkit stay. -/
theorem of_kept {after : Site Forest} (helements : after.elements = site.elements)
    (htoolkit : after.toolkit = site.toolkit) : after.Wired told commands fired := by
  obtain ⟨toolkit, elements, registry⟩ := after
  obtain rfl : elements = site.elements := helements
  obtain rfl : toolkit = site.toolkit := htoolkit
  exact ⟨hwired.sound, hwired.commands, hwired.fired, hwired.untold, hwired.elements, hwired.apart⟩

/-- An element that is new was told nothing. -/
theorem untold_of_introduce {element : Element} {ref : ElementRef} {after : Site Forest}
    (hintroduce : (introduce element).perform site = (.ok ref, after)) : told ref = none := by
  cases hintroduce
  exact hwired.untold _ (Nat.le_refl _)

private theorem mem_live_of_elsewhere {ref : ElementRef} {widget : WidgetId}
    (hwidget : site.Elsewhere ref widget) : widget ∈ site.toolkit.live := by
  obtain ⟨other, element, -, hget, hown⟩ := hwidget
  obtain ⟨widgetType, -, hbears⟩ := (hwired.elements hget).widget widget hown
  exact hbears.mem_live

/-- Work on an element's widget that leaves it with a command wires the element to that, and is
nothing to the others. -/
theorem rewires {ref : ElementRef} {element : Element} {widget : WidgetId} {widgetType : String}
    {command : Option CommandId} {left : Forest} (hget : site.elements.get? ref = some element)
    (hown : element.core.widget = some widget)
    (hsuits : Element.Suits element.role.control? element.core.spec widgetType)
    (hrewires : Rewires widget widgetType command site.toolkit left) :
    Wired (Function.update told ref command) left.commands left.fired
      { site with toolkit := left } where
  sound := hrewires.touches.sound hwired.sound
  commands := rfl
  fired := rfl
  untold other hother := by
    have hlength := (List.getElem?_eq_some_iff.mp hget).1
    have hdiffer : other ≠ ref := by
      rintro rfl
      exact absurd hlength (Nat.not_lt_of_ge hother)
    rw [Function.update_of_ne hdiffer, hwired.untold other hother]
  elements := by
    intro other neighbour hneighbour
    by_cases hother : other = ref
    · subst hother
      obtain rfl := Option.some.inj (hget.symm.trans hneighbour)
      rw [Function.update_self]
      refine ⟨(hwired.elements hget).free, (hwired.elements hget).built, ?_⟩
      exact Core.forall_mem_widget hown ⟨widgetType, hsuits, hrewires.bears⟩
    · rw [Function.update_of_ne hother]
      refine (hwired.elements hneighbour).of_records (fun seen hseen => ?_) hrewires.count
      refine hrewires.touches.others seen ?_
      rintro rfl
      exact hwired.apart hget hown ⟨other, neighbour, hother, hneighbour, hseen⟩
  apart := hwired.apart

end Wired

section Builds

private theorem introduce_wired {role : Role} {spec : NodeSpec} (hfree : spec.HandleFree) :
    Act.Preserves (Wired told commands fired) (introduce (.ofSpec role spec)) := by
  intro site hwired
  rw [introduce, Act.perform_mk]
  refine ⟨hwired.sound, hwired.commands, hwired.fired, fun ref hbeyond => ?_, ?_, ?_⟩
  · refine hwired.untold ref ?_
    rw [List.length_append] at hbeyond
    omega
  · intro ref element hget
    rcases get?_append_cases hget with hold | ⟨rfl, hbeyond⟩
    · exact hwired.elements hold
    · rw [hwired.untold ref hbeyond]
      exact Element.wired_ofSpec _ role hfree
  · rintro ref element widget hget hown ⟨other, neighbour, hother, hneighbour, hsame⟩
    rcases get?_append_cases hget with hold | ⟨rfl, -⟩
    · rcases get?_append_cases hneighbour with hknown | ⟨rfl, -⟩
      · exact hwired.apart hold hown ⟨other, neighbour, hother, hknown, hsame⟩
      · cases hsame
    · cases hown

/-- An element that was worked on may take its own place, if it has no widget of another one. -/
theorem Wired.put (hwired : site.Wired told commands fired) {ref : ElementRef}
    {element worked : Element} {left : Forest} (hget : site.elements.get? ref = some element)
    (hhushed : Hushed (site.Elsewhere ref) site.toolkit left)
    (hworked : worked.Wired left (told ref))
    (hapart : ∀ widget ∈ worked.core.widget, ¬ site.Elsewhere ref widget) :
    Wired told commands fired
      { site with toolkit := left, elements := site.elements.put ref worked } where
  sound := hhushed.sound
  commands := hhushed.commands.trans hwired.commands
  fired := hhushed.fired.trans hwired.fired
  untold other hbeyond := by
    refine hwired.untold other ?_
    simpa [Elements.put] using hbeyond
  elements := by
    intro other neighbour hneighbour
    rcases get?_put_cases hget hneighbour with ⟨rfl, rfl⟩ | ⟨hother, hold⟩
    · exact hworked
    · refine (hwired.elements hold).of_records (fun widget hseen => ?_) hhushed.count
      exact hhushed.records widget ⟨other, neighbour, hother, hold, hseen⟩
  apart := by
    rintro other neighbour widget hneighbour hseen ⟨third, stranger, hthird, hstranger, hsame⟩
    rcases get?_put_cases hget hneighbour with ⟨rfl, rfl⟩ | ⟨hother, hold⟩ <;>
      rcases get?_put_cases hget hstranger with ⟨rfl, rfl⟩ | ⟨hdiffer, hknown⟩
    · exact hthird rfl
    · exact hapart widget hseen ⟨third, stranger, hdiffer, hknown, hsame⟩
    · exact hapart widget hsame ⟨other, neighbour, hother, hold, hseen⟩
    · exact hwired.apart hold hseen ⟨third, stranger, hthird, hknown, hsame⟩

/-- Work on an element that was told nothing keeps all elements wired, if it is silent. -/
theorem onElement_wired {α : Type} {act : Act (Work Element Forest) α} {ref : ElementRef}
    (htold : told ref = none)
    (hact : ∀ spared meant spec base, spec.HandleFree →
      (∀ widget, spared widget → widget ∈ Forest.live base) →
      Act.Preserves (Element.Silent spared meant spec base) act) :
    Act.Preserves (Wired told commands fired) (onElement ref act) := by
  intro site hwired
  cases hget : site.elements.get? ref with
  | none =>
    rw [onElement, Act.perform_mk, hget]
    exact hwired
  | some element =>
    have hown := hwired.elements hget
    rw [htold] at hown
    have hstart : Element.Silent (site.Elsewhere ref) element.role.control? element.core.spec
        site.toolkit ⟨element, site.toolkit⟩ :=
      ⟨rfl, rfl, .refl hwired.sound, fun widget hwidget =>
        ⟨hwired.apart hget hwidget, hown.widget widget hwidget⟩, hown.built⟩
    obtain ⟨hrole, hspec, hhushed, hwidget, hbuilt⟩ := hact _ _ _ _ hown.free
      (fun _ => hwired.mem_live_of_elsewhere) _ hstart
    rw [perform_onElement hget]
    refine hwired.put hget hhushed ⟨hspec ▸ hown.free, hbuilt, fun widget hnew => ?_⟩
      fun widget hnew => (hwidget widget hnew).1
    rw [htold, hrole, hspec]
    exact (hwidget widget hnew).2

/-- Makes an element in some role and builds it, but nothing inside it. -/
def make (role : Role) (spec : NodeSpec) (config : Config) (target : Option WidgetId) :
    Act (Site Forest) Unit := do
  let ref ← introduce (.ofSpec role spec)
  onElement ref (Element.build config target)

/-- Making and building an element whose node brings no handles leaves all others wired as they
were. -/
theorem make_wired (role : Role) {spec : NodeSpec} (hfree : spec.HandleFree) (config : Config)
    (target : Option WidgetId) :
    Act.Preserves (Wired told commands fired) (make role spec config target) := by
  refine .bind_of (introduce_wired hfree) ?_
  intro site ref after hwired hintroduced
  refine onElement_wired (hwired.untold_of_introduce hintroduced) ?_
  exact fun _ _ _ _ hfree hspared => Element.build_silent hfree hspared config target

private theorem bind_wired (name : Option String) (ref : ElementRef) (policy : BindingPolicy) :
    Act.Preserves (Wired told commands fired) (bind name ref policy) := by
  intro site hwired
  obtain ⟨helements, htoolkit⟩ := @kept_of_bind site name ref policy _ _ rfl
  exact hwired.of_kept helements htoolkit

end Builds

end Site

/-- A button or a check box that was built, and whose node declares the class of widget that is
meant for it. -/
structure Element.IsControl (element : Element) : Prop where
  built : element.core.state = .built
  declared : ∃ widgetClass ∈ element.role.control?, element.core.spec.widgetType = some widgetClass

private theorem Role.mem_clickClasses_of_control? {role : Role} {widgetClass : String}
    (hclass : widgetClass ∈ role.control?) : widgetClass ∈ clickClasses := by
  cases role <;> simp_all [control?, clickClasses]

section Controls

variable {forest : Forest} {command : Option CommandId} {element : Element}

/-- The widget of a control can be clicked. -/
theorem Element.Wired.control (hwired : element.Wired forest command)
    (hcontrol : element.IsControl) : ∃ widget widgetType,
      element.core.widget = some widget ∧ widgetType ∈ clickClasses ∧
      Suits element.role.control? element.core.spec widgetType ∧
      forest.Bears widget widgetType command := by
  obtain ⟨widget, hown⟩ := Option.ne_none_iff_exists'.mp (hwired.built hcontrol.built)
  obtain ⟨widgetType, hsuits, hbears⟩ := hwired.widget widget hown
  obtain ⟨widgetClass, hclass, hdeclared⟩ := hcontrol.declared
  refine ⟨widget, widgetType, hown, ?_, hsuits, hbears⟩
  rw [hsuits widgetClass hclass hdeclared]
  exact Role.mem_clickClasses_of_control? hclass

/-- Setting a command is registering it and telling it to the widget. -/
theorem Element.perform_setCommand {left : Forest} {widget : WidgetId}
    (hown : element.core.widget = some widget)
    (htold : forest.registerCommand.2.invoke widget
      ⟨"configure", ⟨[], [("command", .command forest.registerCommand.1)]⟩⟩ = (.ok .null, left)) :
    element.setCommand.perform forest = (.ok forest.registerCommand.1, left) := by
  have hcall : (element.core.invoke
      ⟨"configure", ⟨[], [("command", .command forest.registerCommand.1)]⟩⟩).perform
        forest.registerCommand.2 = (.ok .null, left) := by
    rw [Core.perform_invoke hown, htold]
    rfl
  have hnext := Act.perform_bind_ok hcall fun _ => pure forest.registerCommand.1
  exact hnext

namespace Site.Wired

variable {told : ElementRef → Option CommandId} {commands : Nat} {fired : List CommandId}
  {site : Site Forest} {ref : ElementRef} (hwired : site.Wired told commands fired)
  (hget : site.elements.get? ref = some element) (hcontrol : element.IsControl)
include hwired hget hcontrol

/-- A command can be set for every control, which is wired to that command from then on. -/
theorem setCommand : ∃ left,
    element.setCommand.perform site.toolkit = (.ok site.toolkit.registerCommand.1, left) ∧
    Wired (Function.update told ref (some site.toolkit.registerCommand.1)) (commands + 1) fired
      { site with toolkit := left } := by
  obtain ⟨widget, widgetType, hown, hclass, hsuits, hbears⟩ :=
    (hwired.elements hget).control hcontrol
  let registered := site.toolkit.registerCommand
  have hkept : registered.2.Bears widget widgetType (told ref) :=
    hbears.of_record rfl (Nat.le_refl _)
  have hregister : Touches widget site.toolkit registered.2 :=
    .of_slots widget rfl rfl rfl rfl rfl
  obtain ⟨left, hinvoke, ⟨htouches, hcount, hnamed⟩, hcommands, hfired⟩ :=
    invoke_command hkept hclass registered.1
  have hrewired := hwired.rewires hget hown hsuits
    ⟨hregister.trans htouches, hcount, hnamed⟩
  have hmore : left.commands = commands + 1 := by
    rw [hcommands, ← hwired.commands]
    rfl
  have hsame : left.fired = fired := hfired.trans hwired.fired
  rw [hmore, hsame] at hrewired
  exact ⟨left, Element.perform_setCommand hown hinvoke, hrewired⟩

/-- A click on a control fires the command that the control is wired to, if that was registered, and
changes nothing of how elements are wired. -/
theorem click (hregistered : ∀ command ∈ told ref, site.toolkit.hasCommand command = true)
    (args : Arguments) : ∃ widget left, element.core.widget = some widget ∧
    site.toolkit.invoke widget ⟨"invoke", args⟩ = (.ok .null, left) ∧
    Wired told commands (fired ++ (told ref).toList) { site with toolkit := left } := by
  obtain ⟨widget, widgetType, hown, hclass, hsuits, hbears⟩ :=
    (hwired.elements hget).control hcontrol
  obtain ⟨left, hinvoke, hrewires, hcommands, hfired⟩ := invoke_click hbears hclass args
  have hrewired := hwired.rewires hget hown hsuits hrewires
  have hall : (told ref).filter site.toolkit.hasCommand = told ref := by
    cases hcommand : told ref with
    | none => rfl
    | some command => simp [Option.filter, hregistered command hcommand]
  rw [Function.update_eq_self, hcommands, hfired, hall, hwired.commands, hwired.fired] at hrewired
  exact ⟨widget, left, hown, hinvoke, hrewired⟩

end Site.Wired

end Controls

/-- A resolver makes the element of a node as it finalizes the node, in some role. -/
theorem Resolver.eq_ofSpec_of_element {resolver : Resolver} {spec : NodeSpec} {element : Element}
    (helement : resolver.element spec = .ok element) :
    ∃ role, element = .ofSpec role (resolver.finalize spec) := by
  rw [Resolver.element] at helement
  cases hresolve : resolver.resolve spec with
  | error error =>
    rw [hresolve] at helement
    cases helement
  | ok constructor =>
    rw [hresolve] at helement
    cases helement
    exact ⟨constructor.role, rfl⟩

namespace Plan

/-- What the plan changes about a node before its element is made brings no handles in. -/
def KeepsHandleFree (plan : Plan) : Prop :=
  ∀ spec : NodeSpec, spec.HandleFree → (plan.resolver.finalize spec).HandleFree

variable {plan : Plan} {told : ElementRef → Option CommandId} {commands : Nat}
  {fired : List CommandId}

mutual

/-- Building a tree without handles keeps all elements wired, whether or not it succeeds. -/
theorem build_wired (hplan : plan.KeepsHandleFree) (target : Option WidgetId) :
    ∀ tree : NodeTree, tree.HandleFree →
      Act.Preserves (Site.Wired told commands fired) (plan.build target tree)
  | .node spec children, ⟨hspec, hchildren⟩ => by
    rw [build]
    refine .bind_of (.ofExcept _) ?_
    intro site element after _ hmade
    rw [Act.perform_ofExcept] at hmade
    obtain ⟨role, rfl⟩ := Resolver.eq_ofSpec_of_element (Prod.mk.inj hmade).1
    refine .bind_of (Site.introduce_wired (hplan spec hspec)) ?_
    intro site ref after hwired hintroduced
    have htold : told ref = none := hwired.untold_of_introduce hintroduced
    refine .bind (Site.onElement_wired htold fun spared meant own base hfree hspared =>
      Element.build_silent hfree hspared plan.config target) fun _ => ?_
    refine .bind (Site.bind_wired _ ref _) fun _ => .bind .get fun opened => ?_
    refine .bind (buildAll_wired hplan _ children hchildren) fun _ => .bind .get fun filled => ?_
    exact .bind (Site.onElement_wired htold fun spared meant own base hfree _ =>
      Element.postSubtree_silent hfree children filled.bound) fun _ => .pure ref

private theorem buildAll_wired (hplan : plan.KeepsHandleFree) (target : Option WidgetId) :
    ∀ trees : List NodeTree, NodeTree.AllHandleFree trees →
      Act.Preserves (Site.Wired told commands fired) (plan.buildAll target trees)
  | [], _ => .pure ()
  | tree :: rest, ⟨htree, hrest⟩ => by
    rw [buildAll]
    exact .bind (build_wired hplan target tree htree) fun _ =>
      buildAll_wired hplan target rest hrest

end

end Plan

end WidgetTree
