import WidgetTree.Proofs.Forest.Traversal

namespace WidgetTree.Forest

/-- The lists of children and the roots, as one list. -/
def listed (forest : Forest) : List WidgetId :=
  forest.roots ++ forest.childLists.flatMap Prod.snd

/-- Records, lists and journal agree, every widget is listed where it belongs and nowhere else, and
every traversal ends. -/
structure Consistent (forest : Forest) : Prop where
  /-- Just the live widgets have lists of children. -/
  keys : ∀ widget, widget ∈ forest.childLists.keys ↔ widget ∈ forest.live
  /-- A live widget is listed once over all lists. -/
  once : ∀ widget ∈ forest.live, forest.listed.count widget = 1
  /-- It is listed inside the parent that its record names, -/
  inside : ∀ widget parent, widget ∈ forest.children parent ↔
    forest.link? widget = some (some parent)
  /-- or, if it names none, among the roots. -/
  top : ∀ widget, widget ∈ forest.roots ↔ forest.link? widget = some none
  parents_live : ∀ widget parent, forest.link? widget = some (some parent) → parent ∈ forest.live
  listed_live : ∀ widget ∈ forest.listed, widget ∈ forest.live
  /-- The journal reports a widget as constructed at most once. -/
  constructions_nodup : forest.constructions.Nodup
  children_ordered : ∀ parent, (forest.children parent).Sublist forest.constructions
  roots_ordered : forest.roots.Sublist forest.constructions
  /-- Climbing from a live widget ends at a root. -/
  climbs : ∀ widget ∈ forest.live, forest.Climbs widget (forest.ancestors widget) ∧
    ∃ root ∈ forest.roots, (widget :: forest.ancestors widget).getLast? = some root
  walks : ∀ widget, forest.Walks [widget] (forest.walk widget)
  renders : ∀ widget, ∃ lines, forest.Renders 0 [widget] lines ∧
    forest.subtreeText widget = "\n".intercalate lines
  /-- Destroying a live widget releases widgets until none waits. -/
  releases : ∀ widget record, forest.record? widget = some record → ∃ after,
    Releases (forest.disown record.parent widget) [widget] after ∧
    forest.destroy widget = (.ok (), after.log (.destroyed widget))

namespace Sound

variable {forest : Forest}

private theorem eq_children_of_mem (hsound : forest.Sound) {parent : WidgetId}
    {list : List WidgetId}
    (hmem : (parent, list) ∈ forest.childLists) : list = forest.children parent := by
  have hget := hsound.keys_distinct.get?_of_mem hmem
  rw [Forest.children, hget]
  rfl

private theorem mem_listed_iff (hsound : forest.Sound) {widget : WidgetId} :
    widget ∈ forest.listed ↔ widget ∈ forest.live := by
  rw [listed, List.mem_append, hsound.mem_roots_iff, List.mem_flatMap]
  constructor
  · rintro (hroot | ⟨⟨parent, list⟩, hentry, hmem⟩)
    · exact mem_live_of_link? hroot
    · dsimp only at hmem
      rw [hsound.eq_children_of_mem hentry, hsound.mem_children_iff] at hmem
      exact mem_live_of_link? hmem
  · intro hlive
    obtain ⟨parent, hlink⟩ := exists_link?_of_mem_live hlive
    cases parent with
    | none => exact .inl hlink
    | some parent =>
      have hkey := (hsound.keys parent).mpr (hsound.parent_live hlink)
      obtain ⟨list, hlist⟩ := Table.mem_keys_iff.mp hkey
      have hentry := Table.mem_of_get? hlist
      refine .inr ⟨(parent, list), hentry, ?_⟩
      dsimp only
      rw [hsound.eq_children_of_mem hentry, hsound.mem_children_iff]
      exact hlink

/-- Since a record names one parent, a widget in one list is in no other. -/
theorem listed_nodup (hsound : forest.Sound) : forest.listed.Nodup := by
  have hkeys : forest.childLists.Pairwise fun first second => first.1 ≠ second.1 :=
    List.pairwise_map.mp hsound.keys_distinct
  rw [listed, List.nodup_append]
  refine ⟨nodup_of_sorted hsound.roots_sorted, ?_, ?_⟩
  · rw [List.nodup_flatMap]
    constructor
    · rintro ⟨parent, list⟩ hentry
      rw [hsound.eq_children_of_mem hentry]
      exact nodup_of_sorted (hsound.children_sorted parent)
    · refine hkeys.imp_of_mem ?_
      rintro ⟨first, firstList⟩ ⟨second, secondList⟩ hfirst hsecond hne widget hmem hagain
      dsimp only at hmem hagain
      rw [hsound.eq_children_of_mem hfirst, hsound.mem_children_iff] at hmem
      rw [hsound.eq_children_of_mem hsecond, hsound.mem_children_iff, hmem] at hagain
      exact hne (by simpa using hagain)
  · rintro widget hroot other hother rfl
    obtain ⟨⟨parent, list⟩, hentry, hmem⟩ := List.mem_flatMap.mp hother
    dsimp only at hmem
    rw [hsound.eq_children_of_mem hentry, hsound.mem_children_iff, hsound.mem_roots_iff.mp hroot]
      at hmem
    cases hmem

end Sound

/-- Whatever is asked of the empty forest, in any order, with any arguments and with success or
without, leaves it consistent. -/
theorem consistent_serveAll_empty (requests : List Request) :
    (empty.serveAll requests).Consistent := by
  obtain ⟨hsound, hchronicled⟩ := serveAll_keeps sound_empty rfl requests
  refine
    { keys := hsound.keys
      once := ?_
      inside := fun widget parent => hsound.mem_children_iff
      top := fun widget => hsound.mem_roots_iff
      parents_live := fun widget parent hlink => hsound.parent_live hlink
      listed_live := fun widget hmem => hsound.mem_listed_iff.mp hmem
      constructions_nodup := ?_
      children_ordered := ?_
      roots_ordered := ?_
      climbs := ?_
      walks := walks_walk hsound
      renders := exists_renders_subtreeText hsound
      releases := ?_ }
  · intro widget hlive
    exact List.count_eq_one_of_mem hsound.listed_nodup (hsound.mem_listed_iff.mpr hlive)
  · rw [hchronicled]
    exact nodup_of_sorted (numberedUpTo_sorted _)
  · intro parent
    apply sublist_constructions hsound hchronicled (hsound.children_sorted parent)
    intro widget hmem
    exact mem_live_of_link? (hsound.mem_children_iff.mp hmem)
  · apply sublist_constructions hsound hchronicled hsound.roots_sorted
    intro widget hmem
    exact mem_live_of_link? (hsound.mem_roots_iff.mp hmem)
  · intro widget hlive
    have hclimbs := climbs_ancestors hsound widget
    exact ⟨hclimbs, (hclimbs.reaches_root hsound hlive).2⟩
  · intro widget record hrecord
    refine ⟨_, releases_release _ _, ?_⟩
    rw [destroy, hrecord]

end WidgetTree.Forest
