import WidgetTree.Proofs.Forest.Touch

namespace WidgetTree.Forest

/-- The widget that is constructed next. -/
def next (forest : Forest) : WidgetId := ⟨forest.constructed + 1⟩

/-- The forest is sound, but that the waiting widgets, which are live, are in no list. Nothing is
asked of the parents of waiting widgets, which may be gone. While a destruction is under way these
are the widgets that wait for their own release. -/
structure SoundApart (forest : Forest) (waiting : List WidgetId) : Prop where
  live_nodup : forest.live.Nodup
  vacant : ∀ slot, slot ∈ forest.free ↔ forest.slots[slot]? = some none
  free_nodup : forest.free.Nodup
  issued : ∀ widget ∈ forest.live, 0 < widget.number ∧ widget.number ≤ forest.constructed
  keys_distinct : forest.childLists.Distinct
  keys : ∀ widget, widget ∈ forest.childLists.keys ↔ widget ∈ forest.live
  older : ∀ widget parent, forest.link? widget = some (some parent) → parent.number < widget.number
  children : ∀ widget parent, widget ∈ forest.children parent ↔
    widget ∉ waiting ∧ forest.link? widget = some (some parent)
  roots : ∀ widget, widget ∈ forest.roots ↔ widget ∉ waiting ∧ forest.link? widget = some none
  children_sorted : ∀ parent, (forest.children parent).Pairwise (·.number < ·.number)
  roots_sorted : forest.roots.Pairwise (·.number < ·.number)
  waiting_live : ∀ widget ∈ waiting, widget ∈ forest.live
  waiting_nodup : waiting.Nodup

/-- Records, lists of children and roots agree, and no widget waits. -/
def Sound (forest : Forest) : Prop := forest.SoundApart []

/-- The empty forest is sound. -/
theorem sound_empty : Sound empty where
  live_nodup := List.nodup_nil
  vacant := by simp [empty]
  free_nodup := List.nodup_nil
  issued := by simp [empty, live, widgets]
  keys_distinct := List.nodup_nil
  keys := by simp [empty, live, widgets]
  older := by simp [empty, link?, record?, widgets, Table.get?]
  children := by simp [empty, Forest.children, link?, record?, widgets, Table.get?]
  roots := by simp [empty, link?, record?, widgets, Table.get?]
  children_sorted := by simp [empty, Forest.children, Table.get?]
  roots_sorted := List.Pairwise.nil
  waiting_live := by simp
  waiting_nodup := List.nodup_nil

/-- A list in the order of its numbers lists nothing twice. -/
theorem nodup_of_sorted {list : List WidgetId}
    (hsorted : list.Pairwise (·.number < ·.number)) : list.Nodup :=
  hsorted.imp fun hlt heq => absurd (heq ▸ hlt) (Nat.lt_irrefl _)

namespace Sound

variable {forest : Forest} {widget parent : WidgetId}

/-- In a sound forest the slot that a new widget takes is empty. -/
theorem freeIsVacant (hsound : forest.Sound) : forest.FreeIsVacant :=
  fun slot hslot => (hsound.vacant slot).mp hslot

/-- A widget lists those that say that they are inside it. -/
theorem mem_children_iff (hsound : forest.Sound) :
    widget ∈ forest.children parent ↔ forest.link? widget = some (some parent) := by
  simpa using hsound.children widget parent

/-- The roots are the live widgets that are inside nothing. -/
theorem mem_roots_iff (hsound : forest.Sound) :
    widget ∈ forest.roots ↔ forest.link? widget = some none := by
  simpa using hsound.roots widget

private theorem live_of_mem_children (hsound : forest.Sound)
    (hmem : widget ∈ forest.children parent) : parent ∈ forest.live := by
  rw [← hsound.keys]
  by_contra hkey
  rw [Forest.children, Table.get?_eq_none_iff.mpr hkey] at hmem
  cases hmem

/-- A parent is live as long as it has something inside it. -/
theorem parent_live (hsound : forest.Sound) (hlink : forest.link? widget = some (some parent)) :
    parent ∈ forest.live :=
  hsound.live_of_mem_children (hsound.mem_children_iff.mpr hlink)

/-- The widget that is constructed next is not live yet. -/
theorem next_not_live (hsound : forest.Sound) : forest.next ∉ forest.live := by
  intro hlive
  have hissued : forest.constructed + 1 ≤ forest.constructed := (hsound.issued _ hlive).2
  omega

/-- The widget that is constructed next lists nothing yet. -/
theorem children_next (hsound : forest.Sound) : forest.children forest.next = [] := by
  rw [List.eq_nil_iff_forall_not_mem]
  intro other hmem
  exact hsound.next_not_live (hsound.live_of_mem_children hmem)

end Sound

/-- Which slots are empty can be read off which are occupied. -/
private theorem getElem?_eq_vacant_iff {α : Type} {slots : List (Option α)} {slot : Nat} :
    slots[slot]? = some none ↔ (slots.map Option.isSome)[slot]? = some false := by
  simp

/-- Work on one widget changes nothing that soundness is about. -/
theorem Touches.soundApart {widget : WidgetId} {before after : Forest} {waiting : List WidgetId}
    (htouches : Touches widget before after) (hsound : before.SoundApart waiting) :
    after.SoundApart waiting where
  live_nodup := htouches.live ▸ hsound.live_nodup
  vacant slot := by
    rw [htouches.free, hsound.vacant, getElem?_eq_vacant_iff, getElem?_eq_vacant_iff,
      htouches.occupied]
  free_nodup := htouches.free ▸ hsound.free_nodup
  issued := by
    rw [htouches.live, htouches.constructed]
    exact hsound.issued
  keys_distinct := htouches.childLists ▸ hsound.keys_distinct
  keys := by
    rw [htouches.live, htouches.childLists]
    exact hsound.keys
  older other parent hlink := hsound.older other parent (htouches.link other ▸ hlink)
  children other parent := by
    rw [htouches.children, htouches.link]
    exact hsound.children other parent
  roots other := by
    rw [htouches.roots, htouches.link]
    exact hsound.roots other
  children_sorted parent := htouches.children parent ▸ hsound.children_sorted parent
  roots_sorted := htouches.roots ▸ hsound.roots_sorted
  waiting_live := htouches.live ▸ hsound.waiting_live
  waiting_nodup := hsound.waiting_nodup

/-- Work on one widget leaves a sound forest sound. -/
theorem Touches.sound {widget : WidgetId} {before after : Forest}
    (htouches : Touches widget before after) (hsound : before.Sound) : after.Sound :=
  htouches.soundApart hsound

section Lists

variable (forest : Forest)

/-- A new list belongs to the widget that it is entered for. -/
theorem children_insert (lists : Table WidgetId (List WidgetId)) (key other : WidgetId)
    (list : List WidgetId) :
    children { forest with childLists := lists.insert key list } other =
      if key = other then list else (lists.get? other).getD [] := by
  rw [children, Table.get?_insert]
  split <;> rfl

/-- A widget whose list is dropped lists nothing. -/
theorem children_erase (key other : WidgetId) :
    children { forest with childLists := forest.childLists.erase key } other =
      if key = other then [] else forest.children other := by
  rw [children, Table.get?_erase]
  split <;> rfl

end Lists

end WidgetTree.Forest
