import Mathlib.Data.List.Induction
import WidgetTree.Proofs.Element.Lifecycle

namespace WidgetTree

open Forest

/-- The widgets that a build of the element constructs, as the journal reports them. -/
def ElementEvent.constructs (work : Work Element Forest) : ElementEvent → List WidgetId
  | build config target =>
    let after := (ElementEvent.build config target).after work
    after.toolkit.constructions.drop work.toolkit.constructions.length
  | destroyed | asked _ | served _ => []

namespace Element

/-- The widgets that the builds among the events construct. -/
def owned (work : Work Element Forest) : List ElementEvent → List WidgetId
  | [] => []
  | event :: rest => event.constructs work ++ owned (event.after work) rest

/-- All along at most one of the widgets that the element's builds have constructed is live, and
none is right after the element is destroyed. An element remembers the last widget only that it has
constructed; one that it has forgotten is released by nobody. -/
structure OwnsOne (start : Work Element Forest) (events : List ElementEvent) : Prop where
  single : ∀ early, early <+: events →
    let work := early.foldl ElementEvent.after start
    ∀ first ∈ owned start early, ∀ second ∈ owned start early,
      first ∈ work.toolkit.live → second ∈ work.toolkit.live → first = second
  released : ∀ early, early ++ [.destroyed] <+: events →
    let work := (early ++ [.destroyed]).foldl ElementEvent.after start
    ∀ widget ∈ owned start early, widget ∉ work.toolkit.live

/-- No build constructs a widget while the one that the element has is live. -/
def BuildsVacant (start : Work Element Forest) (events : List ElementEvent) : Prop :=
  ∀ early config target, early ++ [.build config target] <+: events →
    let work := early.foldl ElementEvent.after start
    ∀ widget ∈ work.subject.widget, widget ∈ work.toolkit.live →
      (ElementEvent.build config target).constructs work = []

private theorem owned_append (work : Work Element Forest) (early late : List ElementEvent) :
    owned work (early ++ late) =
      owned work early ++ owned (early.foldl ElementEvent.after work) late := by
  induction early generalizing work with
  | nil => rfl
  | cons event rest ih =>
    rw [List.cons_append, owned, ih, owned, List.foldl_cons, List.append_assoc]

private theorem owned_append_singleton (work : Work Element Forest) (early : List ElementEvent)
    (event : ElementEvent) :
    owned work (early ++ [event]) =
      owned work early ++ event.constructs (early.foldl ElementEvent.after work) := by
  simp [owned_append, owned]

/-- Who was constructed and is not live any more never is again. -/
theorem gone_steady (widget : WidgetId) : Steady fun forest =>
    forest.Sound ∧ widget.number ≤ forest.constructed ∧ widget ∉ forest.live :=
  fun _ ⟨hsound, hissued, hdead⟩ request =>
    ⟨hsound.serve request, hsound.not_mem_live_serve hissued hdead request⟩

/-- A build constructs nothing and changes nothing, or it constructs the next widget, which the
element has from then on, and all other widgets stay. -/
theorem constructs_cases {work : Work Element Forest} (hreachable : work.toolkit.Reachable)
    (config : Config) (target : Option WidgetId) :
    let event := ElementEvent.build config target
    (event.constructs work = [] ∧ (event.after work).subject.widget = work.subject.widget ∧
      (event.after work).toolkit = work.toolkit) ∨
    (event.constructs work = [work.toolkit.next] ∧
      (event.after work).subject.widget = some work.toolkit.next ∧
      (event.after work).toolkit.constructed = work.toolkit.constructed + 1 ∧
      ∀ other, other ∈ (event.after work).toolkit.live ↔
        other ∈ work.toolkit.live ∨ other = work.toolkit.next) := by
  intro event
  obtain ⟨element, forest⟩ := work
  have hafter : (event.after ⟨element, forest⟩).toolkit.Reachable :=
    ElementEvent.after_steady reachable_steady hreachable event
  rcases hbuild : (build config target).perform ⟨element, forest⟩ with ⟨result, after, left⟩
  have hevent : event.after ⟨element, forest⟩ = ⟨after, left⟩ := congrArg Prod.snd hbuild
  have hconstructs : event.constructs ⟨element, forest⟩ =
      left.constructions.drop forest.constructions.length :=
    congrArg (fun work => work.toolkit.constructions.drop forest.constructions.length) hevent
  rw [hevent] at hafter ⊢
  rw [hconstructs]
  have hbuilds := build_builds hreachable hbuild
  generalize hcore : after.core = core at hbuilds
  have hwidget : after.widget = core.widget := congrArg Core.widget hcore
  cases hbuilds with
  | refused => exact .inl ⟨List.drop_length, hwidget, rfl⟩
  | @seated widgetType _ _ hparent htouches =>
    have hcount : left.constructed = forest.constructed + 1 := by
      rw [htouches.constructed, constructed_plant]
    refine .inr ⟨?_, ?_, hcount, fun other => ?_⟩
    · rw [hafter.chronicled, hcount, numberedUpTo_succ, ← hreachable.chronicled]
      exact List.drop_left
    · rw [hwidget, Core.widget_ended]
      rfl
    · rw [htouches.live]
      exact mem_live_plant_iff widgetType target _ hreachable.sound

section Event

variable {work : Work Element Forest} {event : ElementEvent} {widget : WidgetId}

/-- What an event constructs has a number that was given. -/
theorem issued_of_constructs (hreachable : work.toolkit.Reachable)
    (hnew : widget ∈ event.constructs work) :
    widget.number ≤ (event.after work).toolkit.constructed := by
  cases event with
  | build config target =>
    rcases constructs_cases hreachable config target with ⟨hnone, -⟩ | ⟨hnext, -, hcount, -⟩
    · rw [hnone] at hnew
      cases hnew
    · rw [hnext] at hnew
      obtain rfl := List.mem_singleton.mp hnew
      rw [hcount]
      exact Nat.le_refl _
  | destroyed | asked | served => cases hnew

/-- The widget that an element has after an event it had before, or the event constructs it. -/
theorem held_of_after (hreachable : work.toolkit.Reachable)
    (hheld : widget ∈ (event.after work).subject.widget) :
    widget ∈ work.subject.widget ∨ widget ∈ event.constructs work := by
  cases event with
  | build config target =>
    rcases constructs_cases hreachable config target with ⟨-, hwidget, -⟩ | ⟨hnext, hwidget, -⟩
    · exact .inl (hwidget ▸ hheld)
    · rw [hwidget] at hheld
      obtain rfl := Option.some.inj hheld
      exact .inr (hnext ▸ List.mem_singleton_self _)
  | destroyed =>
    rw [ElementEvent.after, perform_destroy] at hheld
    cases hheld
  | asked request =>
    rw [Element.widget, ElementEvent.core_after_asked] at hheld
    exact .inl hheld
  | served request => exact .inl hheld

end Event

/-- Of an element whose builds have constructed these widgets: what it has is one of them, and all
of them were constructed in the forest. -/
structure Owns (own : List WidgetId) (work : Work Element Forest) : Prop where
  reachable : work.toolkit.Reachable
  issued : ∀ widget ∈ own, widget.number ≤ work.toolkit.constructed
  held : ∀ widget ∈ work.subject.widget, widget ∈ own

namespace Owns

variable {own : List WidgetId} {work : Work Element Forest} {widget : WidgetId}

/-- Of the widgets that an element owns, an event brings none back. -/
theorem mem_live_of_after (howns : Owns own work) (hown : widget ∈ own) {event : ElementEvent}
    (hlive : widget ∈ (event.after work).toolkit.live) : widget ∈ work.toolkit.live := by
  by_contra hdead
  have hgone := ElementEvent.after_steady (gone_steady widget)
    ⟨howns.reachable.sound, howns.issued widget hown, hdead⟩ event
  exact hgone.2.2 hlive

private theorem issued_after (howns : Owns own work) (hown : widget ∈ own) (event : ElementEvent) :
    widget.number ≤ (event.after work).toolkit.constructed := by
  have hcounted : Steady fun forest => widget.number ≤ forest.constructed :=
    fun forest hle request => hle.trans (le_constructed_serve forest request)
  exact ElementEvent.after_steady hcounted (howns.issued widget hown) event

/-- An element goes on to own what it owned, and what the event constructs. -/
theorem after (howns : Owns own work) (event : ElementEvent) :
    Owns (own ++ event.constructs work) (event.after work) where
  reachable := ElementEvent.after_steady reachable_steady howns.reachable event
  issued widget hmem := by
    rcases List.mem_append.mp hmem with hold | hnew
    · exact howns.issued_after hold event
    · exact issued_of_constructs howns.reachable hnew
  held widget hheld := by
    rcases held_of_after howns.reachable hheld with hbefore | hnew
    · exact List.mem_append_left _ (howns.held widget hbefore)
    · exact List.mem_append_right _ hnew

/-- An element that was never built owns nothing. -/
theorem start {forest : Forest} (hreachable : forest.Reachable) (role : Role) (spec : NodeSpec) :
    Owns [] ⟨.ofSpec role spec, forest⟩ :=
  ⟨hreachable, nofun, nofun⟩

private theorem foldl {start : Work Element Forest} (howns : Owns [] start)
    (events : List ElementEvent) :
    Owns (owned start events) (events.foldl ElementEvent.after start) := by
  induction events using List.reverseRecOn with
  | nil => exact howns
  | append_singleton early event ih =>
    rw [owned_append_singleton, List.foldl_append]
    exact ih.after event

end Owns

/-- No widget of these is live but the one that the element has. -/
def Sole (own : List WidgetId) (work : Work Element Forest) : Prop :=
  ∀ widget ∈ own, widget ∈ work.toolkit.live → work.subject.widget = some widget

section Sole

variable {own : List WidgetId} {work : Work Element Forest}

/-- Right after an element is destroyed, nothing of what it owned is live, if of that only its own
widget was. -/
theorem Sole.not_mem_live_of_destroyed (hsole : Sole own work) (howns : Owns own work)
    {widget : WidgetId} (hown : widget ∈ own) :
    widget ∉ (ElementEvent.destroyed.after work).toolkit.live := by
  intro hlive
  have hheld := hsole widget hown (howns.mem_live_of_after hown hlive)
  exact not_mem_live_of_destroy howns.reachable hheld hlive

/-- An event leaves the element with one live widget at most, unless it is a build that constructs a
widget while the element has a live one. -/
theorem Sole.after (hsole : Sole own work) (howns : Owns own work) {event : ElementEvent}
    (hvacant : ∀ widget ∈ work.subject.widget, widget ∈ work.toolkit.live →
      event.constructs work = []) :
    Sole (own ++ event.constructs work) (event.after work) := by
  intro widget hmem hlive
  rcases List.mem_append.mp hmem with hold | hnew
  · have hheld := hsole widget hold (howns.mem_live_of_after hold hlive)
    cases event with
    | build config target =>
      have hnone := hvacant widget hheld (howns.mem_live_of_after hold hlive)
      rcases constructs_cases howns.reachable config target with ⟨-, hwidget, -⟩ | ⟨hnext, -⟩
      · rw [hwidget, hheld]
      · rw [hnext] at hnone
        cases hnone
    | destroyed => exact absurd hlive (hsole.not_mem_live_of_destroyed howns hold)
    | asked request =>
      rw [Element.widget, ElementEvent.core_after_asked]
      exact hheld
    | served request => exact hheld
  · cases event with
    | build config target =>
      rcases constructs_cases howns.reachable config target with ⟨hnone, -⟩ | ⟨hnext, hwidget, -⟩
      · rw [hnone] at hnew
        cases hnew
      · rw [hnext] at hnew
        obtain rfl := List.mem_singleton.mp hnew
        exact hwidget
    | destroyed | asked | served => cases hnew

private theorem Sole.foldl {start : Work Element Forest} (howns : Owns [] start)
    {events : List ElementEvent} (hvacant : BuildsVacant start events) (early : List ElementEvent)
    (hearly : early <+: events) :
    Sole (owned start early) (early.foldl ElementEvent.after start) := by
  induction early using List.reverseRecOn with
  | nil => exact nofun
  | append_singleton early event ih =>
    rw [owned_append_singleton, List.foldl_append]
    refine (ih ((List.prefix_append early [event]).trans hearly)).after (howns.foldl early) ?_
    cases event with
    | build config target => exact hvacant early config target hearly
    | destroyed | asked | served => exact fun _ _ _ => rfl

end Sole

/-- However an element in any role is built, destroyed and used, and whatever is asked of the
toolkit in between, the element owns at most one live widget all along, and none right after it is
destroyed, exactly if none of its builds constructs a widget while it has a live one. -/
theorem ownsOne_iff_buildsVacant {forest : Forest} (hreachable : forest.Reachable) (role : Role)
    (spec : NodeSpec) (events : List ElementEvent) :
    OwnsOne ⟨.ofSpec role spec, forest⟩ events ↔
      BuildsVacant ⟨.ofSpec role spec, forest⟩ events := by
  have howns := Owns.start hreachable role spec
  constructor
  · -- A build that constructs the next widget leaves the old one live besides it.
    intro hone early config target hearly work widget hheld hlive
    have hnow := howns.foldl early
    rcases constructs_cases hnow.reachable config target with ⟨hnone, -⟩ | ⟨hnext, -, -, hmore⟩
    · exact hnone
    · have hsingle := hone.single _ hearly
      rw [List.foldl_append, owned_append_singleton, hnext] at hsingle
      have hold := List.mem_append_left [work.toolkit.next] (hnow.held widget hheld)
      obtain rfl := hsingle widget hold work.toolkit.next (by simp [work])
        ((hmore widget).mpr (.inl hlive)) ((hmore _).mpr (.inr rfl))
      exact absurd hlive hnow.reachable.sound.next_not_live
  · intro hvacant
    refine ⟨?_, ?_⟩
    · intro early hearly work first hfirst second hsecond hone hother
      have hsole := Sole.foldl howns hvacant early hearly
      exact Option.some.inj ((hsole first hfirst hone).symm.trans (hsole second hsecond hother))
    · intro early hearly work widget hown
      have hsole := Sole.foldl howns hvacant early ((List.prefix_append early _).trans hearly)
      rw [show work = _ from List.foldl_append]
      exact hsole.not_mem_live_of_destroyed (howns.foldl early) hown

/-- A panel that is built twice, the second time inside a widget that is not there, owns one widget
at most. -/
theorem panel_refused_ownsOne :
    let start : Work Element Forest :=
      ⟨.ofSpec .generic { id := "panel", widgetType := some "Frame" }, empty⟩
    empty.Reachable ∧
      OwnsOne start [.build {} none, .build {} (some ⟨9⟩), .destroyed] := by
  intro start
  have hreachable : empty.Reachable := ⟨[], rfl⟩
  refine ⟨hreachable, (ownsOne_iff_buildsVacant hreachable .generic _ _).mpr ?_⟩
  intro early config target hearly
  match early, hearly with
  | [], _ => exact nofun
  | [_], hearly =>
    simp only [List.cons_append, List.nil_append, List.cons_prefix_cons] at hearly
    obtain ⟨rfl, hbuild, -⟩ := hearly
    cases hbuild
    exact fun _ _ _ => rfl
  | [_, _], hearly => simp [List.cons_prefix_cons] at hearly
  | _ :: _ :: _ :: _, hearly => simp [List.cons_prefix_cons] at hearly

/-- A panel that is built twice leaves its first frame behind, for good. -/
theorem panel_built_twice :
    let start : Work Element Forest :=
      ⟨.ofSpec .generic { id := "panel", widgetType := some "Frame" }, empty⟩
    let work := [ElementEvent.build {} none, .build {} none].foldl ElementEvent.after start
    owned start [.build {} none, .build {} none] = [⟨1⟩, ⟨2⟩] ∧
      work.toolkit.live = [⟨1⟩, ⟨2⟩] ∧ work.subject.widget = some ⟨2⟩ ∧
      ⟨1⟩ ∈ (ElementEvent.destroyed.after work).toolkit.live ∧
      ¬ OwnsOne start [.build {} none, .build {} none, .destroyed] := by
  intro start work
  have hsound : work.toolkit.Sound :=
    ((Owns.start ⟨[], rfl⟩ _ _).foldl [.build {} none, .build {} none]).reachable.sound
  have howned : owned start [.build {} none, .build {} none] = [⟨1⟩, ⟨2⟩] := rfl
  have hlive : work.toolkit.live = [⟨1⟩, ⟨2⟩] := rfl
  refine ⟨howned, hlive, rfl, ?_, fun hone => ?_⟩
  · rw [ElementEvent.after, perform_destroy]
    have hclears : Clears [⟨2⟩] work.toolkit (work.toolkit.destroy ⟨2⟩).2 := .of_destroy hsound ⟨2⟩
    refine (hclears.live ⟨1⟩).mpr ⟨by simp [hlive], ?_⟩
    decide
  · have hsingle := hone.single [.build {} none, .build {} none] ⟨[.destroyed], rfl⟩ ⟨1⟩
      (by simp [howned]) ⟨2⟩ (by simp [howned])
    cases hsingle (by decide) (by decide)

end Element

end WidgetTree
