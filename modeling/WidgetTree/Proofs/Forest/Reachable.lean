import Mathlib.Data.List.Perm.Subperm
import Mathlib.Data.List.Sort
import WidgetTree.Proofs.Forest.Destroy

namespace WidgetTree

/-- The widget that an entry of the journal reports as constructed. -/
def Event.constructed? : Event → Option WidgetId
  | .constructed widget _ => some widget
  | _ => none

namespace Forest

/-- What can be asked of a forest. -/
inductive Request
  | construct (widgetType : String) (parent : Option WidgetId) (args : Fields Value)
  | attach (widget : WidgetId) (strategy : String) (args : Fields Value)
  | setAttribute (widget : WidgetId) (name : String) (value : Value)
  | invoke (widget : WidgetId) (call : Call)
  | destroy (widget : WidgetId)
  | createVariable (value : Value)
  | readVariable (handle : VariableId)
  | writeVariable (handle : VariableId) (value : Value)
  | registerCommand
  | fireCommand (handle : CommandId)

/-- The forest after a request, whether or not it succeeds. -/
def serve (forest : Forest) : Request → Forest
  | .construct widgetType parent args => (forest.construct widgetType parent args).2
  | .attach widget strategy args => (forest.attach widget strategy args).2
  | .setAttribute widget name value => (forest.setAttribute widget name value).2
  | .invoke widget call => (forest.invoke widget call).2
  | .destroy widget => (forest.destroy widget).2
  | .createVariable value => (forest.createVariable value).2
  | .readVariable handle => (forest.readVariable handle).2
  | .writeVariable handle value => (forest.writeVariable handle value).2
  | .registerCommand => forest.registerCommand.2
  | .fireCommand handle => forest.fireCommand handle

/-- The forest after several requests, served in order. -/
def serveAll (forest : Forest) (requests : List Request) : Forest := requests.foldl serve forest

/-- The forest comes of requests to the empty one. -/
def Reachable (forest : Forest) : Prop := ∃ requests, forest = empty.serveAll requests

/-- The widgets that the journal reports as constructed, in order. -/
def constructions (forest : Forest) : List WidgetId := forest.history.filterMap Event.constructed?

/-- The numbers from one up to a count, as widgets. -/
def numberedUpTo (count : Nat) : List WidgetId := (List.range count).map fun number => ⟨number + 1⟩

/-- The journal reports the construction of every widget that was ever constructed, once and in
order. -/
def Chronicled (forest : Forest) : Prop := forest.constructions = numberedUpTo forest.constructed

/-- One number more numbers one widget more. -/
theorem numberedUpTo_succ (count : Nat) :
    numberedUpTo (count + 1) = numberedUpTo count ++ [⟨count + 1⟩] := by
  simp [numberedUpTo, List.range_succ]

/-- The widgets up to a number are those that are numbered from 1 up to it. -/
theorem mem_numberedUpTo_iff {count : Nat} {widget : WidgetId} :
    widget ∈ numberedUpTo count ↔ 0 < widget.number ∧ widget.number ≤ count := by
  obtain ⟨number⟩ := widget
  simp only [numberedUpTo, List.mem_map, List.mem_range, WidgetId.mk.injEq]
  constructor
  · rintro ⟨below, hbelow, rfl⟩
    omega
  · rintro ⟨hpos, hle⟩
    exact ⟨number - 1, by omega, by omega⟩

/-- Widgets are numbered in ascending order. -/
theorem numberedUpTo_sorted (count : Nat) :
    (numberedUpTo count).Pairwise (·.number < ·.number) := by
  rw [numberedUpTo, List.pairwise_map]
  exact List.pairwise_lt_range.imp fun hlt => Nat.succ_lt_succ hlt

section Journal

variable {forest : Forest}

private theorem constructions_log {event : Event} (hevent : event.constructed? = none) :
    (forest.log event).constructions = forest.constructions := by
  simp [constructions, log, hevent]

@[simp] theorem history_vacate (widget : WidgetId) :
    (forest.vacate widget).history = forest.history := by
  unfold vacate
  dsimp only
  split <;> rfl

/-- Releases are not journalled one by one, and construct nothing. -/
theorem release_journal (forest : Forest) (waiting : List WidgetId) :
    (forest.release waiting).history = forest.history ∧
      (forest.release waiting).constructed = forest.constructed := by
  induction forest, waiting using Forest.release.induct with
  | case1 forest => simp [Forest.release]
  | case2 forest widget waiting inside hinside ih =>
    rw [release_cons hinside]
    simpa [releasedOne, unlisted] using ih
  | case3 forest widget waiting hnone ih =>
    rw [release_cons_of_none hnone]
    simpa using ih

/-- Destroying a widget changes neither what was constructed nor how much. -/
theorem destroy_journal (forest : Forest) (widget : WidgetId) :
    (forest.destroy widget).2.constructions = forest.constructions ∧
      (forest.destroy widget).2.constructed = forest.constructed := by
  unfold destroy
  split
  · exact ⟨rfl, rfl⟩
  · next record hrecord =>
    obtain ⟨-, -, hconstructed, hhistory, -⟩ := disown_fields forest record.parent widget
    obtain ⟨hkept, hcount⟩ := release_journal (forest.disown record.parent widget) [widget]
    constructor
    · rw [constructions_log rfl, constructions, constructions, hkept, hhistory]
    · exact hcount.trans hconstructed

private theorem invoke_constructions (widget : WidgetId) (call : Call) :
    (forest.invoke widget call).2.constructions = forest.constructions := by
  obtain ⟨-, -, hhistory⟩ := invoke_spec widget call forest
  rw [constructions, hhistory, constructions, List.filterMap_append]
  split <;> simp [Event.constructed?]

private theorem attach_constructions (widget : WidgetId) (strategy : String) (args : Fields Value) :
    (forest.attach widget strategy args).2.constructions = forest.constructions := by
  rcases attach_cases widget strategy args forest with ⟨error, hattach⟩ | hattach
  · rw [hattach]
  · rw [hattach]
    exact constructions_log rfl

private theorem setAttribute_constructions (widget : WidgetId) (name : String) (value : Value) :
    (forest.setAttribute widget name value).2.constructions = forest.constructions := by
  rcases setAttribute_cases widget name value forest with ⟨error, hassign⟩ | hassign
  · rw [hassign]
  · rw [hassign]
    exact constructions_log rfl

end Journal

/-- All that serving a request can do: a widget is planted inside a live one or as a root, or a
widget is destroyed, or it is work on one widget at most. -/
theorem serve_cases (forest : Forest) (request : Request) :
    (∃ widgetType parent args, (∀ outer ∈ parent, outer ∈ forest.live) ∧
      forest.serve request = forest.plant widgetType parent args) ∨
    (∃ widget, request = .destroy widget ∧
      forest.serve request = (forest.destroy widget).2) ∨
    (∃ widget, Touches widget forest (forest.serve request) ∧
      (forest.serve request).constructions = forest.constructions) := by
  cases request with
  | construct widgetType parent args =>
    rcases construct_cases widgetType parent args forest with
      ⟨error, hconstruct⟩ | ⟨-, hparent, hconstruct⟩
    · refine .inr (.inr ⟨⟨0⟩, ?_⟩)
      simp [serve, hconstruct, Touches.refl]
    · exact .inl ⟨widgetType, parent, args, hparent, by simp [serve, hconstruct]⟩
  | attach widget strategy args =>
    exact .inr (.inr ⟨widget, attach_touches widget strategy args forest, attach_constructions ..⟩)
  | setAttribute widget name value =>
    exact .inr (.inr ⟨widget, setAttribute_touches widget name value forest,
      setAttribute_constructions ..⟩)
  | invoke widget call =>
    exact .inr (.inr ⟨widget, (invoke_spec widget call forest).1, invoke_constructions ..⟩)
  | destroy widget => exact .inr (.inl ⟨widget, rfl, rfl⟩)
  | createVariable value =>
    exact .inr (.inr ⟨⟨0⟩, .of_slots _ rfl rfl rfl rfl rfl, rfl⟩)
  | readVariable handle =>
    refine .inr (.inr ⟨⟨0⟩, ?_⟩)
    simp only [serve, readVariable]
    split <;> exact ⟨.refl _ forest, rfl⟩
  | writeVariable handle value =>
    have hserves := writeVariable_serves ⟨0⟩ handle value forest
    refine .inr (.inr ⟨⟨0⟩, hserves.touches, ?_⟩)
    exact congrArg (List.filterMap Event.constructed?) hserves.history
  | registerCommand =>
    exact .inr (.inr ⟨⟨0⟩, .of_slots _ rfl rfl rfl rfl rfl, rfl⟩)
  | fireCommand handle =>
    refine .inr (.inr ⟨⟨0⟩, ?_⟩)
    simp only [serve, fireCommand]
    split
    · exact ⟨.of_slots _ rfl rfl rfl rfl rfl, rfl⟩
    · exact ⟨.refl _ forest, rfl⟩

/-- The number of constructions does not go down. -/
theorem le_constructed_serve (forest : Forest) (request : Request) :
    forest.constructed ≤ (forest.serve request).constructed := by
  rcases serve_cases forest request with
    ⟨widgetType, parent, args, -, hserve⟩ | ⟨gone, -, hserve⟩ | ⟨widget, htouches, -⟩
  · rw [hserve, constructed_plant]
    omega
  · rw [hserve, (destroy_journal forest gone).2]
  · rw [htouches.constructed]

/-- Whatever is asked of a sound forest leaves it sound. -/
theorem Sound.serve {forest : Forest} (hsound : forest.Sound) (request : Request) :
    (forest.serve request).Sound := by
  rcases serve_cases forest request with
    ⟨widgetType, parent, args, hparent, hserve⟩ | ⟨widget, -, hserve⟩ | ⟨widget, htouches, -⟩
  · rw [hserve]
    exact hsound.plant widgetType parent args hparent
  · rw [hserve]
    exact hsound.destroy widget
  · exact htouches.sound hsound

private theorem Chronicled.serve {forest : Forest} (hchronicled : forest.Chronicled)
    (request : Request) : (forest.serve request).Chronicled := by
  unfold Chronicled at hchronicled ⊢
  rcases serve_cases forest request with
    ⟨widgetType, parent, args, -, hserve⟩ | ⟨widget, -, hserve⟩ | ⟨widget, htouches, hkept⟩
  · rw [hserve, constructed_plant, numberedUpTo_succ, ← hchronicled, constructions, history_plant,
      List.filterMap_append]
    rfl
  · obtain ⟨hkept, hcount⟩ := destroy_journal forest widget
    rw [hserve, hkept, hcount, hchronicled]
  · rw [hkept, htouches.constructed, hchronicled]

/-- Requests are served one list after the other. -/
theorem serveAll_append (forest : Forest) (early late : List Request) :
    forest.serveAll (early ++ late) = (forest.serveAll early).serveAll late :=
  List.foldl_append

/-- A last request is served on what those before it have left. -/
theorem serveAll_append_singleton (forest : Forest) (early : List Request) (request : Request) :
    forest.serveAll (early ++ [request]) = (forest.serveAll early).serve request :=
  serveAll_append forest early [request]

/-- However many requests are served, a sound forest stays sound and its journal in order. -/
theorem serveAll_keeps {forest : Forest} (hsound : forest.Sound) (hchronicled : forest.Chronicled)
    (requests : List Request) :
    (forest.serveAll requests).Sound ∧ (forest.serveAll requests).Chronicled := by
  induction requests generalizing forest with
  | nil => exact ⟨hsound, hchronicled⟩
  | cons request rest ih => exact ih (hsound.serve request) (hchronicled.serve request)

namespace Reachable

variable {forest : Forest}

/-- What a request leaves of a reachable forest is reachable. -/
theorem serve (hreachable : forest.Reachable) (request : Request) :
    (forest.serve request).Reachable := by
  obtain ⟨requests, rfl⟩ := hreachable
  exact ⟨requests ++ [request], (serveAll_append_singleton empty requests request).symm⟩

/-- Every reachable forest is sound. -/
theorem sound (hreachable : forest.Reachable) : forest.Sound := by
  obtain ⟨requests, rfl⟩ := hreachable
  exact (serveAll_keeps sound_empty rfl requests).1

/-- The journal of every reachable forest lists the constructions in order. -/
theorem chronicled (hreachable : forest.Reachable) : forest.Chronicled := by
  obtain ⟨requests, rfl⟩ := hreachable
  exact (serveAll_keeps sound_empty rfl requests).2

end Reachable

/-- Live widgets in the order of their numbers are in the order of their construction. -/
theorem sublist_constructions {forest : Forest} (hsound : forest.Sound)
    (hchronicled : forest.Chronicled) {list : List WidgetId}
    (hsorted : list.Pairwise (·.number < ·.number))
    (hlive : ∀ widget ∈ list, widget ∈ forest.live) :
    list.Sublist forest.constructions := by
  rw [hchronicled]
  have hnodup : list.Nodup := nodup_of_sorted hsorted
  have hsubset : list ⊆ numberedUpTo forest.constructed := fun widget hwidget =>
    mem_numberedUpTo_iff.mpr (hsound.issued widget (hlive widget hwidget))
  have : Std.Antisymm fun first second : WidgetId => first.number < second.number :=
    ⟨fun _ _ hlt hgt => absurd (Nat.lt_trans hlt hgt) (Nat.lt_irrefl _)⟩
  exact List.sublist_of_subperm_of_pairwise (hnodup.subperm hsubset) hsorted
    (numberedUpTo_sorted _)

end Forest

end WidgetTree
