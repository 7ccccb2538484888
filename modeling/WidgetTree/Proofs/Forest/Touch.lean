import WidgetTree.Proofs.Forest.Record

namespace WidgetTree.Forest

/-- Between two forests at most the record of one widget has changed, and in it not the parent;
variables, commands and the journal may have changed as well. Attaching a widget, assigning an
attribute and calling a method are such work, whatever they answer. -/
structure Touches (widget : WidgetId) (before after : Forest) : Prop where
  constructed : after.constructed = before.constructed
  occupied : after.slots.map Option.isSome = before.slots.map Option.isSome
  free : after.free = before.free
  live : after.live = before.live
  childLists : after.childLists = before.childLists
  roots : after.roots = before.roots
  link : ∀ other, after.link? other = before.link? other
  others : ∀ other, other ≠ widget → after.record? other = before.record? other

namespace Touches

variable {widget : WidgetId} {first second third : Forest}

/-- No work is work on any widget. -/
theorem refl (widget : WidgetId) (forest : Forest) : Touches widget forest forest :=
  ⟨rfl, rfl, rfl, rfl, rfl, rfl, fun _ => rfl, fun _ _ => rfl⟩

/-- Two pieces of work on a widget are one. -/
theorem trans (hfirst : Touches widget first second) (hsecond : Touches widget second third) :
    Touches widget first third where
  constructed := hsecond.constructed.trans hfirst.constructed
  occupied := hsecond.occupied.trans hfirst.occupied
  free := hsecond.free.trans hfirst.free
  live := hsecond.live.trans hfirst.live
  childLists := hsecond.childLists.trans hfirst.childLists
  roots := hsecond.roots.trans hfirst.roots
  link other := (hsecond.link other).trans (hfirst.link other)
  others other hother := (hsecond.others other hother).trans (hfirst.others other hother)

/-- Work on one widget leaves all lists. -/
theorem children (htouches : Touches widget first second) (other : WidgetId) :
    second.children other = first.children other := by
  rw [Forest.children, Forest.children, htouches.childLists]

/-- A change to a record that leaves its parent is work on the widget. -/
theorem of_modify (forest : Forest) (widget : WidgetId) {change : Record → Record}
    (hparent : ∀ record, forest.record? widget = some record →
      (change record).parent = record.parent) :
    Touches widget forest (forest.modify widget change) where
  constructed := rfl
  occupied := by
    simp only [modify, List.map_map]
    apply List.map_congr_left
    intro slot _
    cases slot <;> rfl
  free := rfl
  live := live_modify forest widget change
  childLists := rfl
  roots := rfl
  link other := by
    rw [link?, link?, record?_modify]
    split
    · next hother =>
      subst hother
      cases hrecord : forest.record? other with
      | none => rfl
      | some record => simp [hparent record hrecord]
    · rfl
  others other hother := by simp [record?_modify, hother]

/-- Variables, commands and the journal are none of a widget's record. -/
theorem of_slots {before after : Forest} (widget : WidgetId) (hslots : after.slots = before.slots)
    (hconstructed : after.constructed = before.constructed) (hfree : after.free = before.free)
    (hlists : after.childLists = before.childLists) (hroots : after.roots = before.roots) :
    Touches widget before after := by
  have hwidgets : after.widgets = before.widgets := by rw [widgets, widgets, hslots]
  have hrecord (other : WidgetId) : after.record? other = before.record? other := by
    rw [record?, record?, hwidgets]
  have hlive : after.live = before.live := by
    rw [Forest.live, Forest.live, hwidgets]
  exact ⟨hconstructed, by rw [hslots], hfree, hlive, hlists, hroots,
    fun other => by rw [link?, link?, hrecord], fun other _ => hrecord other⟩

end Touches

/-- Work on a widget that leaves all of its record that is not the doing of method calls. -/
structure Serves (widget : WidgetId) (before after : Forest) : Prop where
  touches : Touches widget before after
  uncalled : (after.record? widget).map Record.uncalled =
    (before.record? widget).map Record.uncalled
  history : after.history = before.history

namespace Serves

variable {widget : WidgetId}

theorem refl (widget : WidgetId) (forest : Forest) : Serves widget forest forest :=
  ⟨.refl widget forest, rfl, rfl⟩

private theorem trans {first second third : Forest} (hfirst : Serves widget first second)
    (hsecond : Serves widget second third) : Serves widget first third :=
  ⟨hfirst.touches.trans hsecond.touches, hsecond.uncalled.trans hfirst.uncalled,
    hsecond.history.trans hfirst.history⟩

private theorem of_slots {before after : Forest} (widget : WidgetId)
    (hslots : after.slots = before.slots)
    (hconstructed : after.constructed = before.constructed) (hfree : after.free = before.free)
    (hlists : after.childLists = before.childLists) (hroots : after.roots = before.roots)
    (hhistory : after.history = before.history) : Serves widget before after := by
  refine ⟨.of_slots widget hslots hconstructed hfree hlists hroots, ?_, hhistory⟩
  rw [record?, record?, widgets, widgets, hslots]

end Serves

/-- Writing to a variable leaves all widgets. -/
theorem writeVariable_serves (widget : WidgetId) (handle : VariableId) (value : Value)
    (forest : Forest) : Serves widget forest (forest.writeVariable handle value).2 := by
  unfold writeVariable
  split
  · exact .refl widget forest
  · exact .of_slots widget rfl rfl rfl rfl rfl rfl

/-- Checking a button leaves all records. -/
theorem record?_check (forest : Forest) (record : Record) (on : Option Bool)
    (other : WidgetId) :
    (forest.check record on).2.record? other = forest.record? other := by
  unfold check writeVariable
  split
  · rfl
  · split
    · rfl
    · split <;> rfl

/-- Firing a command leaves all records. -/
theorem record?_fireBound (forest : Forest) (record : Record) (other : WidgetId) :
    (forest.fireBound record).record? other = forest.record? other := by
  unfold fireBound fireCommand
  split
  · rfl
  · split <;> rfl

/-- Checking a button leaves all of its record. -/
theorem check_serves (widget : WidgetId) (forest : Forest) (record : Record) (on : Option Bool) :
    Serves widget forest (forest.check record on).2 := by
  unfold check
  split
  · exact .refl widget forest
  · split
    · exact .refl widget forest
    · exact writeVariable_serves widget _ _ forest

/-- Firing a command leaves all of the record. -/
theorem fireBound_serves (widget : WidgetId) (forest : Forest) (record : Record) :
    Serves widget forest (forest.fireBound record) := by
  unfold fireBound
  split
  · exact .refl widget forest
  · unfold fireCommand
    split
    · exact .of_slots widget rfl rfl rfl rfl rfl rfl
    · exact .refl widget forest

/-- A method that concerns the record alone leaves what is not the doing of calls. -/
theorem performLocally_serves {widget : WidgetId} {forest : Forest} {record : Record}
    (hrecord : forest.record? widget = some record) (behaviour : Behaviour) (call : Call) :
    Serves widget forest (forest.performLocally widget record behaviour call).2 := by
  unfold performLocally
  split
  · exact .refl widget forest
  · next answer after hperform =>
    dsimp only
    have huncalled := Record.uncalled_of_perform hperform
    refine ⟨.of_modify forest widget ?_, ?_, rfl⟩
    · intro old hold
      rw [hrecord, Option.some.injEq] at hold
      subst hold
      have hparent := congrArg Record.parent huncalled
      exact hparent
    · simp [record?_modify, hrecord, huncalled]

/-- Carrying out a call that was taken note of serves its widget, whether or not it succeeds. -/
theorem carryOut_serves {widget : WidgetId} {forest : Forest} {record : Record}
    (hrecord : forest.record? widget = some record) (behaviour : Behaviour) (call : Call) :
    Serves widget forest (forest.carryOut widget record behaviour call).2 := by
  unfold carryOut
  split
  · exact check_serves widget forest record _
  · have hcheck := check_serves widget forest record none
    split
    · next heq => rwa [heq] at hcheck
    · next heq =>
      rw [heq] at hcheck
      exact hcheck.trans (fireBound_serves widget _ record)
  · exact fireBound_serves widget forest record
  · split
    · exact .refl widget forest
    · exact performLocally_serves hrecord _ call
  · exact performLocally_serves hrecord _ call

/-- Whether a call of a method gets as far as the journal: the widget is live and its class has the
method. -/
def accepts (forest : Forest) (widget : WidgetId) (method : String) : Bool :=
  match forest.classOf widget with
  | .ok cls => cls.hasMethod method
  | .error _ => false

/-- What has a class has a record. -/
theorem exists_record?_of_classOf {forest : Forest} {widget : WidgetId} {cls : WidgetClass}
    (hclass : forest.classOf widget = .ok cls) : ∃ record, forest.record? widget = some record := by
  unfold classOf at hclass
  split at hclass
  · cases hclass
  · next record hrecord => exact ⟨record, hrecord⟩

/-- All that a method call can do: it is refused and changes nothing, or it is taken note of and
then carried out, whatever comes of that. -/
theorem invoke_cases (widget : WidgetId) (call : Call) (forest : Forest) :
    (forest.accepts widget call.method = false ∧
      ∃ error, invoke widget call forest = (.error error, forest)) ∨
    (forest.accepts widget call.method = true ∧ ∃ record behaviour,
      forest.record? widget = some record ∧
      invoke widget call forest =
        ((forest.modify widget (noteCall call)).log (.invoked widget call.method)).carryOut widget
          (noteCall call record) behaviour call) := by
  unfold invoke accepts
  cases hclass : forest.classOf widget with
  | error error => exact .inl ⟨rfl, error, rfl⟩
  | ok cls =>
    obtain ⟨record, hrecord⟩ := exists_record?_of_classOf hclass
    dsimp only
    rw [hrecord]
    dsimp only
    cases hmethod : cls.hasMethod call.method with
    | false => exact .inl ⟨rfl, _, rfl⟩
    | true => exact .inr ⟨rfl, record, _, rfl, rfl⟩

/-- A method call, refused or not, is work on its widget, leaves what calls do not make of the
record, and is journalled exactly if it was accepted. -/
theorem invoke_spec (widget : WidgetId) (call : Call) (forest : Forest) :
    Touches widget forest (invoke widget call forest).2 ∧
    ((invoke widget call forest).2.record? widget).map Record.uncalled =
      (forest.record? widget).map Record.uncalled ∧
    (invoke widget call forest).2.history = forest.history ++
      if forest.accepts widget call.method then [.invoked widget call.method] else [] := by
  rcases invoke_cases widget call forest with
    ⟨haccepts, error, hinvoke⟩ | ⟨haccepts, record, behaviour, hrecord, hinvoke⟩
  · simp [hinvoke, haccepts, Touches.refl]
  · rw [hinvoke, haccepts]
    have hnoted : ((forest.modify widget (noteCall call)).log
        (.invoked widget call.method)).record? widget = some (noteCall call record) := by
      simp [record?_modify, hrecord]
    have hserves := carryOut_serves hnoted behaviour call
    have hnote : Touches widget forest (forest.modify widget (noteCall call)) :=
      .of_modify forest widget fun _ _ => rfl
    have hlog : Touches widget (forest.modify widget (noteCall call))
        ((forest.modify widget (noteCall call)).log (.invoked widget call.method)) :=
      .of_slots widget rfl rfl rfl rfl rfl
    refine ⟨(hnote.trans hlog).trans hserves.touches, ?_, hserves.history⟩
    rw [hserves.uncalled, hnoted, hrecord]
    rfl

/-- All that attaching can do: it fails and changes nothing, or the widget, whose class supports
the strategy, is attached by it. -/
theorem attach_cases (widget : WidgetId) (strategy : String) (args : Fields Value)
    (forest : Forest) :
    (∃ error, attach widget strategy args forest = (.error error, forest)) ∨
    attach widget strategy args forest =
      (.ok (), (forest.modify widget ({ · with attachment := some { strategy, args } })).log
        (.attached widget strategy)) := by
  unfold attach
  split
  · next error _ => exact .inl ⟨error, rfl⟩
  · split
    · exact .inr rfl
    · exact .inl ⟨_, rfl⟩

/-- All that assigning an attribute can do: it fails and changes nothing, or the attribute has its
value. -/
theorem setAttribute_cases (widget : WidgetId) (name : String) (value : Value) (forest : Forest) :
    (∃ error, setAttribute widget name value forest = (.error error, forest)) ∨
    setAttribute widget name value forest =
      (.ok (), (forest.modify widget fun record =>
        { record with attributes := record.attributes.insert name value }).log
          (.attributeSet widget name)) := by
  unfold setAttribute
  split
  · exact .inr rfl
  · exact .inl ⟨_, rfl⟩

/-- A journalled change to a record that leaves its parent is work on the widget. -/
theorem touches_modify_log {widget : WidgetId} (forest : Forest) {change : Record → Record}
    (hparent : ∀ record, (change record).parent = record.parent) (event : Event) :
    Touches widget forest ((forest.modify widget change).log event) :=
  (Touches.of_modify forest widget fun record _ => hparent record).trans
    (.of_slots widget rfl rfl rfl rfl rfl)

/-- Attaching a widget, with success or without, is work on it. -/
theorem attach_touches (widget : WidgetId) (strategy : String) (args : Fields Value)
    (forest : Forest) : Touches widget forest (attach widget strategy args forest).2 := by
  rcases attach_cases widget strategy args forest with ⟨error, hattach⟩ | hattach
  · rw [hattach]
    exact .refl widget forest
  · rw [hattach]
    refine touches_modify_log forest ?_ _
    intro record
    rfl

/-- Assigning an attribute, with success or without, is work on the widget. -/
theorem setAttribute_touches (widget : WidgetId) (name : String) (value : Value)
    (forest : Forest) : Touches widget forest (setAttribute widget name value forest).2 := by
  rcases setAttribute_cases widget name value forest with ⟨error, hassign⟩ | hassign
  · rw [hassign]
    exact .refl widget forest
  · rw [hassign]
    refine touches_modify_log forest ?_ _
    intro record
    rfl

end WidgetTree.Forest
