import WidgetTree.Proofs.Forest.Journal
import WidgetTree.Proofs.Forest.Preorder

namespace WidgetTree.Forest

section Views

variable (forest : Forest)

/-- The slot that a widget lives in. -/
def slot? (widget : WidgetId) : Option Nat :=
  forest.slots.findIdx? fun slot => slot.any fun entry => entry.1 = widget

/-- One widget lives in a slot before the other's. -/
def SlotsBefore (first second : WidgetId) : Prop :=
  ∃ slot later, forest.slot? first = some slot ∧ forest.slot? second = some later ∧ slot < later

/-- A line describes a widget inside another, two spaces further in for every level between the
two. -/
def Indents (top widget : WidgetId) (line : String) : Prop :=
  ∃ record level, forest.record? widget = some record ∧
    (forest.ancestors widget).length = (forest.ancestors top).length + level ∧
    line = lineAt level record

/-- Walks, climbs, searches and texts show the same forest. -/
structure ViewsAgree : Prop where
  /-- Walking and climbing are the loops over a stack and over the parents. -/
  walks : ∀ widget, forest.Walks [widget] (forest.walk widget)
  climbs : ∀ widget, forest.Climbs widget (forest.ancestors widget)
  /-- The walks from the roots, one after the other, list every live widget once. -/
  walked_once : (forest.roots.flatMap forest.walk).Nodup
  mem_walked : ∀ widget, widget ∈ forest.roots.flatMap forest.walk ↔ widget ∈ forest.live
  /-- A search finds what is walked, where the condition holds, and nothing twice, -/
  searched_once : ∀ condition, (forest.search condition).Nodup
  searched : ∀ condition, (forest.search condition).Perm
    ((forest.roots.flatMap forest.walk).filter fun widget =>
      (forest.record? widget).any condition)
  /-- in the order of the slots, each of which holds the record of its widget, -/
  occupied : ∀ widget record, forest.record? widget = some record →
    ∃ slot, forest.slot? widget = some slot ∧ forest.slots[slot]? = some (some (widget, record))
  searched_in_slots : ∀ condition, (forest.search condition).Pairwise forest.SlotsBefore
  /-- and in the order of construction as long as nothing was destroyed. -/
  searched_in_order : (∀ widget, .destroyed widget ∉ forest.history) →
    ∀ condition, (forest.search condition).Sublist forest.constructions
  /-- So the searches by type and by option miss no live widget and report no other. -/
  mem_byType : ∀ widgetType widget, widget ∈ forest.byType widgetType ↔
    ∃ record, forest.record? widget = some record ∧ record.widgetType = widgetType
  mem_byOption : ∀ name value widget, widget ∈ forest.byOption name value ↔
    ∃ record known, forest.record? widget = some record ∧ record.option? name = some known ∧
      known.same value = true
  /-- The text of a subtree has a line for every widget of the walk, in the order of the walk. -/
  written : ∀ widget, ∃ lines,
    List.Forall₂ (forest.Indents widget) (forest.walk widget) lines ∧
      forest.subtreeText widget = "\n".intercalate lines

end Views

section Slots

variable {forest : Forest} {widget : WidgetId} {record : Record} {slot : Nat}

/-- Where nothing is live twice, no two slots hold the same widget. -/
theorem pairwise_slots (hnodup : forest.live.Nodup) :
    forest.slots.Pairwise fun first second =>
      ∀ entry ∈ first, ∀ other ∈ second, entry.1 ≠ other.1 :=
  List.pairwise_filterMap.mp (List.pairwise_map.mp hnodup)

private theorem slot?_eq_of_getElem? (hnodup : forest.live.Nodup)
    (hslot : forest.slots[slot]? = some (some (widget, record))) :
    forest.slot? widget = some slot := by
  obtain ⟨hlt, hentry⟩ := List.getElem?_eq_some_iff.mp hslot
  rw [slot?, List.findIdx?_eq_some_iff_getElem]
  refine ⟨hlt, by simp [hentry], ?_⟩
  intro earlier hearlier
  have hapart := List.pairwise_iff_getElem.mp (pairwise_slots hnodup) earlier slot
    (hearlier.trans hlt) hlt hearlier
  rw [hentry] at hapart
  cases hoccupant : forest.slots[earlier] with
  | none => simp
  | some entry => simpa using hapart entry hoccupant _ rfl

/-- A live widget is found in a slot that holds its record. -/
theorem exists_slot (hnodup : forest.live.Nodup) (hrecord : forest.record? widget = some record) :
    ∃ slot, forest.slot? widget = some slot ∧
      forest.slots[slot]? = some (some (widget, record)) := by
  have hmem : some (widget, record) ∈ forest.slots := by
    simpa [widgets] using Table.mem_of_get? hrecord
  obtain ⟨slot, hslot⟩ := List.mem_iff_getElem?.mp hmem
  exact ⟨slot, slot?_eq_of_getElem? hnodup hslot, hslot⟩

/-- The live widgets are listed in the order of their slots. -/
theorem live_inSlots (hnodup : forest.live.Nodup) : forest.live.Pairwise forest.SlotsBefore := by
  refine List.pairwise_map.mpr (List.pairwise_filterMap.mpr ?_)
  rw [List.pairwise_iff_getElem]
  intro slot later hslot hlater hlt entry hentry other hother
  exact ⟨slot, later, slot?_eq_of_getElem? hnodup (List.getElem?_eq_some_iff.mpr ⟨hslot, hentry⟩),
    slot?_eq_of_getElem? hnodup (List.getElem?_eq_some_iff.mpr ⟨hlater, hother⟩), hlt⟩

end Slots

section Searches

variable {forest : Forest} {condition : Record → Bool} {widget : WidgetId}

private theorem search_eq_filter (hsound : forest.Sound) (condition : Record → Bool) :
    forest.search condition =
      forest.live.filter fun widget => (forest.record? widget).any condition := by
  rw [search, live, Table.keys, List.filter_map]
  congr 1
  refine List.filter_congr ?_
  rintro ⟨widget, record⟩ hmem
  have hrecord : forest.record? widget = some record :=
    Table.Distinct.get?_of_mem hsound.live_nodup hmem
  simp [hrecord]

/-- A search finds the live widgets whose record satisfies its condition. -/
theorem mem_search_iff (hsound : forest.Sound) :
    widget ∈ forest.search condition ↔
      ∃ record, forest.record? widget = some record ∧ condition record = true := by
  rw [search_eq_filter hsound, List.mem_filter, mem_live_iff]
  constructor
  · rintro ⟨⟨record, hrecord⟩, hholds⟩
    exact ⟨record, hrecord, by simpa [hrecord] using hholds⟩
  · rintro ⟨record, hrecord, hholds⟩
    exact ⟨⟨record, hrecord⟩, by simpa [hrecord] using hholds⟩

end Searches

section Order

/-- Nothing was destroyed, so that no slot is free and the live widgets are all that were ever
constructed, in order. -/
structure Unfelled (forest : Forest) : Prop where
  free : forest.free = []
  live : forest.live = numberedUpTo forest.constructed

variable {forest : Forest}

/-- With no slot free, the next widget takes a new slot behind all others. -/
theorem Unfelled.plant (hunfelled : forest.Unfelled) (widgetType : String)
    (parent : Option WidgetId) (args : Fields Value) :
    (forest.plant widgetType parent args).Unfelled := by
  have hfree := hunfelled.free
  have hslots : (forest.plant widgetType parent args).slots =
      forest.slots ++ [some (forest.next, newRecord widgetType parent args)] := by
    cases parent <;> simp [Forest.plant, adopt, log, occupy, counted, hfree]
  constructor
  · cases parent <;> simp [Forest.plant, adopt, log, occupy, counted, hfree]
  · have hlive := hunfelled.live
    rw [Forest.live, widgets] at hlive ⊢
    rw [hslots, List.filterMap_append, Table.keys_append, hlive, constructed_plant,
      numberedUpTo_succ]
    rfl

/-- One request that reports no destruction has destroyed nothing. -/
theorem Unfelled.serve (request : Request)
    (hunfelled : (∀ widget, .destroyed widget ∉ forest.history) → forest.Unfelled)
    (hnone : ∀ widget, .destroyed widget ∉ (forest.serve request).history) :
    (forest.serve request).Unfelled := by
  rcases serve_entries forest request with
    ⟨widgetType, parent, args, -, hserve⟩ | ⟨widget, hlive, hserve⟩ | ⟨widget, henters⟩ | hrests
  · rw [hserve] at hnone ⊢
    rw [history_plant] at hnone
    exact (hunfelled fun widget hmem => hnone widget (List.mem_append_left _ hmem)).plant ..
  · rw [hserve, history_destroy hlive] at hnone
    exact absurd (List.mem_append_right _ List.mem_cons_self) (hnone widget)
  · obtain ⟨htouches, event, -, -, -, -, -, hhistory⟩ := henters
    rw [hhistory] at hnone
    obtain ⟨hfree, hlive⟩ := hunfelled fun widget hmem => hnone widget (List.mem_append_left _ hmem)
    exact ⟨htouches.free.trans hfree, by rw [htouches.live, hlive, htouches.constructed]⟩
  · obtain ⟨hslots, hfree, hconstructed, hhistory⟩ := hrests
    rw [hhistory] at hnone
    obtain ⟨hvacant, hlive⟩ := hunfelled hnone
    refine ⟨hfree.trans hvacant, ?_⟩
    rw [Forest.live, widgets, hslots, hconstructed]
    exact hlive

private theorem unfelled_empty : empty.Unfelled := ⟨rfl, rfl⟩

/-- However many requests are served, what reports no destruction has destroyed nothing. -/
theorem Unfelled.serveAll
    (hunfelled : (∀ widget, .destroyed widget ∉ forest.history) → forest.Unfelled)
    (requests : List Request)
    (hnone : ∀ widget, .destroyed widget ∉ (forest.serveAll requests).history) :
    (forest.serveAll requests).Unfelled := by
  induction requests generalizing forest with
  | nil => exact hunfelled hnone
  | cons request rest ih => exact ih (Unfelled.serve request hunfelled) hnone

end Order

section Text

variable {forest : Forest}

/-- The lines go with the walk, since both go down to the same depth; what is one step further in
has one more ancestor. -/
theorem lines_indent (hsound : forest.Sound) {depth level : Nat} {top widget : WidgetId}
    (hlevel : (forest.ancestors widget).length = (forest.ancestors top).length + level) :
    List.Forall₂ (forest.Indents top) (forest.walkDown depth widget)
      (forest.lines depth level widget) := by
  induction depth generalizing level widget with
  | zero => exact .nil
  | succ depth ih =>
    rw [walkDown, lines, contains]
    cases hrecord : forest.record? widget with
    | none => exact .nil
    | some record =>
      have hinside : List.Forall₂
          (fun inner other => inner = other ∧ inner ∈ forest.children widget)
          (forest.children widget) (forest.children widget) :=
        List.forall₂_same.mpr fun inner hinner => ⟨rfl, hinner⟩
      refine .cons ⟨record, level, hrecord, hlevel, rfl⟩ (List.rel_flatMap hinside ?_)
      rintro inner _ ⟨rfl, hinner⟩
      refine ih ?_
      rw [hsound.ancestors_of_mem_children hinner, List.length_cons, hlevel]
      omega

end Text

/-- Whatever is asked of the empty forest, in any order, with any arguments and with success or
without, leaves a forest whose views agree. -/
theorem viewsAgree_serveAll_empty (requests : List Request) :
    (empty.serveAll requests).ViewsAgree := by
  obtain ⟨hsound, hchronicled⟩ := serveAll_keeps sound_empty rfl requests
  have hnodup := hsound.live_nodup
  have hwalked : ((empty.serveAll requests).roots.flatMap (empty.serveAll requests).walk).Perm
      (empty.serveAll requests).live :=
    (List.perm_ext_iff_of_nodup hsound.nodup_roots_walk hnodup).mpr fun _ =>
      hsound.mem_roots_walk_iff
  refine
    { walks := walks_walk hsound
      climbs := climbs_ancestors hsound
      walked_once := hsound.nodup_roots_walk
      mem_walked := fun widget => hsound.mem_roots_walk_iff
      searched_once := ?_
      searched := ?_
      occupied := fun widget record hrecord => exists_slot hnodup hrecord
      searched_in_slots := ?_
      searched_in_order := ?_
      mem_byType := ?_
      mem_byOption := ?_
      written := ?_ }
  · intro condition
    rw [search_eq_filter hsound]
    exact hnodup.filter _
  · intro condition
    rw [search_eq_filter hsound]
    exact (hwalked.filter _).symm
  · intro condition
    rw [search_eq_filter hsound]
    exact (live_inSlots hnodup).filter _
  · intro hnone condition
    have hlive := (Unfelled.serveAll (fun _ => unfelled_empty) requests hnone).live
    rw [search_eq_filter hsound, hchronicled, ← hlive]
    exact List.filter_sublist
  · intro widgetType widget
    rw [byType, mem_search_iff hsound]
    simp
  · intro name value widget
    rw [byOption, mem_search_iff hsound]
    simp [Option.any_eq_true]
  · intro widget
    exact ⟨_, lines_indent hsound rfl, rfl⟩

end WidgetTree.Forest
