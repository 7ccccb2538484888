import WidgetTree.Proofs.Element.Build
import WidgetTree.Proofs.Forest.Clearing
import WidgetTree.Proofs.Rows.Undo

namespace WidgetTree

open Forest

/-- What may happen to an element and to the toolkit that its widget is in. -/
inductive ElementEvent
  | build (config : Config) (target : Option WidgetId)
  | destroyed
  /-- Something is asked of the rows, if the element is a collection. -/
  | asked (request : RowRequest)
  /-- Somebody else asks something of the toolkit. -/
  | served (request : Forest.Request)

namespace ElementEvent

/-- The element and the forest after an event, whether or not it succeeds. -/
def after (work : Work Element Forest) : ElementEvent → Work Element Forest
  | build config target => ((Element.build config target).perform work).2
  | destroyed => (Element.destroy.perform work).2
  | asked request => ((Element.onRows request.act).perform work).2
  | served request => { work with toolkit := work.toolkit.serve request }

/-- Every event comes down to requests to the forest. -/
theorem after_steady {kept : Forest → Prop} (hsteady : Steady kept) {work : Work Element Forest}
    (hkept : kept work.toolkit) (event : ElementEvent) : kept (event.after work).toolkit := by
  cases event with
  | build config target => exact Element.build_steady hsteady config target work hkept
  | destroyed => exact Element.destroy_steady hsteady work hkept
  | asked request => exact Element.onRows_steady hsteady request work hkept
  | served request => exact hsteady work.toolkit hkept request

/-- What is asked of the rows is no concern of the core. -/
theorem core_after_asked (work : Work Element Forest) (request : RowRequest) :
    ((asked request).after work).subject.core = work.subject.core := by
  rw [after, Element.onRows, Act.perform_bind_ok (Act.perform_subject _)]
  cases work.subject.collection? with
  | none => rfl
  | some collection => rfl

end ElementEvent

namespace Core

variable {core after : Core} {target : Option WidgetId} {forest left : Forest}

/-- An element that counts as built has a widget. -/
def Holds (core : Core) : Prop := core.state = .built → ∃ widget, core.widget = some widget

private theorem Builds.holds {result : Except BuildError Unit}
    (hbuilds : Builds target core forest result after left) (hholds : core.Holds) :
    after.Holds := by
  cases hbuilds with
  | refused => exact hholds
  | seated => exact fun _ => ⟨forest.next, widget_ended _ result⟩

private theorem Builds.state_of_error {error : BuildError}
    (hbuilds : Builds target core forest (.error error) after left) : after.state = core.state := by
  cases hbuilds with
  | refused => rfl
  | seated => rfl

end Core

namespace Element

/-- An element as it may be found after any events: its forest is reachable, and if it counts as
built it has a widget. -/
structure Found (work : Work Element Forest) : Prop where
  reachable : work.toolkit.Reachable
  holds : work.subject.core.Holds

variable {work : Work Element Forest}

private theorem Found.after (hfound : Found work) (event : ElementEvent) :
    Found (event.after work) where
  reachable := ElementEvent.after_steady reachable_steady hfound.reachable event
  holds := by
    cases event with
    | build config target =>
      obtain ⟨element, forest⟩ := work
      exact (build_builds hfound.reachable rfl).holds hfound.holds
    | destroyed =>
      rw [ElementEvent.after, perform_destroy]
      exact nofun
    | asked request =>
      rw [ElementEvent.core_after_asked]
      exact hfound.holds
    | served request => exact hfound.holds

private theorem Found.foldl (hfound : Found work) (events : List ElementEvent) :
    Found (events.foldl ElementEvent.after work) := by
  induction events generalizing work with
  | nil => exact hfound
  | cons event rest ih => exact ih (hfound.after event)

private theorem found_ofSpec {forest : Forest} (hreachable : forest.Reachable) (role : Role)
    (spec : NodeSpec) : Found ⟨.ofSpec role spec, forest⟩ :=
  ⟨hreachable, nofun⟩

/-- Destroying an element takes its widget away, if it is still there. -/
theorem not_mem_live_of_destroy (hreachable : work.toolkit.Reachable) {widget : WidgetId}
    (hwidget : work.subject.widget = some widget) :
    widget ∉ (destroy.perform work).2.toolkit.live := by
  rw [perform_destroy, hwidget]
  have hcleared := Forest.withoutRows_steady reachable_steady hreachable work.subject.rows
  have hclears := Clears.of_destroy hcleared.sound widget
  intro hlive
  exact ((hclears.live widget).mp hlive).2 widget List.mem_cons_self List.mem_cons_self

/-- However an element in any role was built, destroyed and used, and whatever was asked of the
toolkit in between: if it counts as built, it has a widget; a build that fails now leaves the state
that the element has; and destroying it now succeeds, leaves it destroyed and without a widget, and
the widget that it had is not live any more. Destroying it once more changes nothing. -/
theorem lifecycle_of_events {forest : Forest} (hreachable : forest.Reachable) (role : Role)
    (spec : NodeSpec) (events : List ElementEvent) :
    let work := events.foldl ElementEvent.after ⟨.ofSpec role spec, forest⟩
    (work.subject.core.state = .built → ∃ widget, work.subject.widget = some widget) ∧
    (∀ config target error after, (build config target).perform work = (.error error, after) →
      after.subject.core.state = work.subject.core.state) ∧
    ∃ after, destroy.perform work = (.ok (), after) ∧
      after.subject.core.state = .destroyed ∧ after.subject.widget = none ∧
      (∀ widget, work.subject.widget = some widget → widget ∉ after.toolkit.live) ∧
      destroy.perform after = (.ok (), after) := by
  intro work
  have hfound : Found work := (found_ofSpec hreachable role spec).foldl events
  refine ⟨hfound.holds, ?_, _, perform_destroy work.subject work.toolkit, rfl, rfl, ?_, ?_⟩
  · intro config target error after hbuild
    exact (build_builds hfound.reachable hbuild).state_of_error
  · intro widget hwidget
    have hdead := not_mem_live_of_destroy hfound.reachable hwidget
    rwa [perform_destroy] at hdead
  · have hrows : work.subject.released.rows = [] := by
      obtain ⟨⟨core, role⟩, forest⟩ := work
      cases role <;> rfl
    rw [perform_destroy, released_released, hrows]
    rfl

/-- A button whose window was destroyed still counts as built, and is destroyed as well as any. -/
theorem orphaned_button_lifecycle :
    let forest := empty.serveAll [.construct "Tk" none []]
    let work := [ElementEvent.build {} (some ⟨1⟩), .served (.destroy ⟨1⟩)].foldl
      ElementEvent.after ⟨.ofSpec .button { id := "ok", widgetType := some "Button" }, forest⟩
    forest.Reachable ∧ work.subject.core.state = .built ∧ work.subject.widget = some ⟨2⟩ ∧
      ∃ after, destroy.perform work = (.ok (), after) ∧ after.subject.core.state = .destroyed ∧
        ⟨2⟩ ∉ after.toolkit.live ∧ destroy.perform after = (.ok (), after) := by
  intro forest work
  have hreachable : forest.Reachable := ⟨_, rfl⟩
  have hwidget : work.subject.widget = some ⟨2⟩ := rfl
  obtain ⟨-, -, after, hdestroy, hstate, -, hgone, hagain⟩ :=
    lifecycle_of_events hreachable .button { id := "ok", widgetType := some "Button" }
      [.build {} (some ⟨1⟩), .served (.destroy ⟨1⟩)]
  exact ⟨hreachable, rfl, hwidget, after, hdestroy, hstate, hgone ⟨2⟩ hwidget, hagain⟩

end Element

end WidgetTree
