import WidgetTree.Proofs.Forest.Fell
import WidgetTree.Proofs.Forest.Reachable
import WidgetTree.Proofs.Forest.Traversal

namespace WidgetTree

/-- What is kept of a record as long as its widget is live: its type and its parent, and the
attachment unless the widget is attached anew. -/
structure Record.Keeps (anew : Prop) (before after : Record) : Prop where
  widgetType : after.widgetType = before.widgetType
  parent : after.parent = before.parent
  attachment : ¬ anew → after.attachment = before.attachment

namespace Record.Keeps

variable {record after : Record} {anew : Prop}

theorem refl (anew : Prop) (record : Record) : Keeps anew record record :=
  ⟨rfl, rfl, fun _ => rfl⟩

/-- Calls leave of a record what must be kept of it. -/
theorem of_uncalled (huncalled : after.uncalled = record.uncalled) :
    Keeps anew record after := by
  have htype := congrArg Record.widgetType huncalled
  have hparent := congrArg Record.parent huncalled
  have hattachment := congrArg Record.attachment huncalled
  exact ⟨htype, hparent, fun _ => hattachment⟩

end Record.Keeps

namespace Forest

/-- The request is to attach this widget. -/
def Request.Attaches (widget : WidgetId) : Request → Prop
  | .attach other _ _ => other = widget
  | .construct .. | .setAttribute .. | .invoke .. | .destroy _ | .createVariable _
  | .readVariable _ | .writeVariable .. | .registerCommand | .fireCommand _ => False

/-- The same widgets are inside a widget in both forests. -/
def SameInside (top : WidgetId) (before after : Forest) : Prop :=
  ∀ widget, widget ∈ after.walk top ↔ widget ∈ before.walk top

variable {forest : Forest} {widget : WidgetId} {record after : Record} {anew : Prop}

/-- What a change to the record of one widget keeps of it is kept of every record. -/
private theorem keeps_of_modify {other : WidgetId} {change : Record → Record} {event : Event}
    (hchange : other = widget → ∀ record, Record.Keeps anew record (change record))
    (hbefore : forest.record? widget = some record)
    (hafter : ((forest.modify other change).log event).record? widget = some after) :
    Record.Keeps anew record after := by
  rw [record?_log, record?_modify, hbefore] at hafter
  split at hafter
  · next hwidget =>
    cases hafter
    exact hchange hwidget.symm record
  · cases hafter
    exact .refl anew record

/-- A widget that is live before and after a request is of the type it was and where it was. -/
theorem Sound.serve_keeps (hsound : forest.Sound) (request : Request)
    (hbefore : forest.record? widget = some record)
    (hafter : (forest.serve request).record? widget = some after) :
    Record.Keeps (request.Attaches widget) record after := by
  have hsame (hkept : (forest.serve request).record? widget = forest.record? widget) :
      Record.Keeps (request.Attaches widget) record after := by
    rw [hkept, hbefore] at hafter
    cases hafter
    exact .refl _ record
  cases request with
  | construct widgetType parent args =>
    apply hsame
    rw [Forest.serve]
    rcases construct_cases widgetType parent args forest with
      ⟨error, hconstruct⟩ | ⟨-, -, hconstruct⟩
    · rw [hconstruct]
    · have hold : widget ≠ forest.next := by
        rintro rfl
        exact hsound.next_not_live (mem_live_iff.mpr ⟨record, hbefore⟩)
      rw [hconstruct, record?_plant _ _ _ hsound, if_neg hold]
  | attach other strategy args =>
    rw [Forest.serve] at hafter
    rcases attach_cases other strategy args forest with ⟨error, hattach⟩ | hattach
    · apply hsame
      rw [Forest.serve, hattach]
    · rw [hattach] at hafter
      refine keeps_of_modify ?_ hbefore hafter
      exact fun hwidget _ => ⟨rfl, rfl, fun hnot => absurd hwidget hnot⟩
  | setAttribute other name value =>
    rw [Forest.serve] at hafter
    rcases setAttribute_cases other name value forest with ⟨error, hassign⟩ | hassign
    · apply hsame
      rw [Forest.serve, hassign]
    · rw [hassign] at hafter
      refine keeps_of_modify ?_ hbefore hafter
      exact fun _ _ => ⟨rfl, rfl, fun _ => rfl⟩
  | invoke other call =>
    obtain ⟨htouches, huncalled, -⟩ := invoke_spec other call forest
    by_cases hother : widget = other
    · subst hother
      rw [Forest.serve] at hafter
      rw [hafter, hbefore] at huncalled
      exact .of_uncalled (Option.some.inj huncalled)
    · exact hsame (htouches.others widget hother)
  | destroy other =>
    by_cases hlive : other ∈ forest.live
    · obtain ⟨left, hdestroy, hfelled⟩ := hsound.destroy_felled hlive
      apply hsame
      rw [Forest.serve, hdestroy] at hafter ⊢
      exact hfelled.record?_of_mem_live (mem_live_iff.mpr ⟨after, hafter⟩)
    · apply hsame
      rw [Forest.serve, destroy_of_not_mem hlive]
  | createVariable value | registerCommand => exact hsame rfl
  | readVariable handle =>
    apply hsame
    simp only [Forest.serve, readVariable]
    split <;> rfl
  | writeVariable handle value =>
    apply hsame
    simp only [Forest.serve, writeVariable]
    split <;> rfl
  | fireCommand handle =>
    apply hsame
    simp only [Forest.serve, fireCommand]
    split <;> rfl

/-- Lists in the order of their numbers are equal if they have the same members. -/
theorem eq_of_sorted {first second : List WidgetId}
    (hfirst : first.Pairwise (·.number < ·.number))
    (hsecond : second.Pairwise (·.number < ·.number))
    (hmem : ∀ widget, widget ∈ first ↔ widget ∈ second) : first = second := by
  have hperm :=
    (List.perm_ext_iff_of_nodup (nodup_of_sorted hfirst) (nodup_of_sorted hsecond)).mpr hmem
  refine hperm.eq_of_pairwise ?_ hfirst hsecond
  intro _ _ _ _ hlt hgt
  exact absurd (Nat.lt_trans hlt hgt) (Nat.lt_irrefl _)

/-- Where a walk visits the same widgets, the same are inside. -/
theorem SameInside.of_walk {top : WidgetId} {left : Forest}
    (hwalk : left.walk top = forest.walk top) : SameInside top forest left :=
  fun widget => by rw [hwalk]

/-- A walk visits live widgets only. -/
theorem Sound.live_of_mem_walk (hsound : forest.Sound) {top : WidgetId}
    (hvisited : widget ∈ forest.walk top) : widget ∈ forest.live := by
  have hanything : ∀ outer : WidgetId, True → ∀ inner ∈ forest.children outer, True :=
    fun _ _ _ _ => trivial
  exact ((walks_walk hsound top).keeps hanything (fun _ _ => trivial) widget hvisited).1

/-- Only live widgets are listed inside others. -/
theorem Sound.live_of_mem_inside (hsound : forest.Sound) {parent : WidgetId}
    (hmem : widget ∈ forest.children parent) : widget ∈ forest.live :=
  mem_live_of_link? (hsound.mem_children_iff.mp hmem)

/-- A walk visits its top, if that is live. -/
theorem Sound.top_mem_walk (hsound : forest.Sound) {top : WidgetId} (hlive : top ∈ forest.live) :
    top ∈ forest.walk top :=
  (walks_walk hsound top).complete.1 top List.mem_cons_self hlive

/-- A walk visits what is inside the widgets that it visits. -/
theorem Sound.mem_walk_of_mem_children (hsound : forest.Sound) {top parent : WidgetId}
    (hvisited : parent ∈ forest.walk top) (hmem : widget ∈ forest.children parent) :
    widget ∈ forest.walk top :=
  (walks_walk hsound top).complete.2 parent hvisited widget hmem (hsound.live_of_mem_inside hmem)

/-- A request that constructs and destroys nothing inside a widget leaves the lists inside it. -/
theorem SameInside.children {request : Request} {top : WidgetId} (hsound : forest.Sound)
    (hsame : SameInside top forest (forest.serve request)) (hvisited : widget ∈ forest.walk top) :
    (forest.serve request).children widget = forest.children widget := by
  have hserved := hsound.serve request
  have hlink {inner : WidgetId} (hinner : inner ∈ forest.walk top) :
      (forest.serve request).link? inner = forest.link? inner := by
    obtain ⟨record, hrecord⟩ := mem_live_iff.mp (hsound.live_of_mem_walk hinner)
    obtain ⟨after, hafter⟩ := mem_live_iff.mp (hserved.live_of_mem_walk ((hsame inner).mpr hinner))
    rw [link?, link?, hrecord, hafter, Option.map_some, Option.map_some,
      (hsound.serve_keeps request hrecord hafter).parent]
  refine eq_of_sorted (hserved.children_sorted widget) (hsound.children_sorted widget) ?_
  intro inner
  constructor
  · intro hmem
    have hinner := hserved.mem_walk_of_mem_children ((hsame widget).mpr hvisited) hmem
    rw [hserved.mem_children_iff, hlink ((hsame inner).mp hinner)] at hmem
    exact hsound.mem_children_iff.mpr hmem
  · intro hmem
    have hinner := hsound.mem_walk_of_mem_children hvisited hmem
    rw [hsound.mem_children_iff, ← hlink hinner] at hmem
    exact hserved.mem_children_iff.mpr hmem

end Forest

end WidgetTree
