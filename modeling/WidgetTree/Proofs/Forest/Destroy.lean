import WidgetTree.Proofs.Forest.Construct

namespace WidgetTree.Forest

section Vacate

variable (forest : Forest) (widget : WidgetId)

@[simp] theorem childLists_vacate : (forest.vacate widget).childLists = forest.childLists := by
  unfold vacate
  dsimp only
  split <;> rfl

@[simp] theorem roots_vacate : (forest.vacate widget).roots = forest.roots := by
  unfold vacate
  dsimp only
  split <;> rfl

@[simp] theorem constructed_vacate : (forest.vacate widget).constructed = forest.constructed := by
  unfold vacate
  dsimp only
  split <;> rfl

variable {forest}

/-- The slot that a freed widget leaves is empty and free, and it was not free before. -/
theorem vacant_vacate (hvacant : ∀ slot, slot ∈ forest.free ↔ forest.slots[slot]? = some none)
    (hnodup : forest.free.Nodup) :
    (∀ slot, slot ∈ (forest.vacate widget).free ↔
      (forest.vacate widget).slots[slot]? = some none) ∧ (forest.vacate widget).free.Nodup := by
  unfold vacate
  dsimp only
  split
  · exact ⟨hvacant, hnodup⟩
  · next left hleft =>
    obtain ⟨hlength, hholds, -⟩ := List.findIdx?_eq_some_iff_getElem.mp hleft
    constructor
    · intro slot
      by_cases hslot : left = slot
      · subst hslot
        simp [hlength]
      · rw [List.getElem?_set_ne hslot, ← hvacant]
        simp [Ne.symm hslot]
    · refine List.nodup_cons.mpr ⟨?_, hnodup⟩
      intro hmem
      have hempty := (List.getElem?_eq_some_iff.mp ((hvacant left).mp hmem)).2
      rw [hempty] at hholds
      cases hholds

end Vacate

namespace SoundApart

variable {forest : Forest} {widget : WidgetId} {waiting : List WidgetId}

/-- Every live widget has a list of those inside it. -/
theorem get?_childLists (hsound : forest.SoundApart waiting) (hlive : widget ∈ forest.live) :
    forest.childLists.get? widget = some (forest.children widget) := by
  obtain ⟨list, hlist⟩ := Table.mem_keys_iff.mp ((hsound.keys widget).mpr hlive)
  rw [Forest.children, hlist]
  rfl

end SoundApart

/-- The forest that no longer lists what is inside a widget. -/
def unlisted (forest : Forest) (widget : WidgetId) : Forest :=
  { forest with childLists := forest.childLists.erase widget }

/-- The forest after the release of one widget. The widgets that wait for their release are live and
in no list, and a widget that is released sends those inside it to the end of the line. -/
def releasedOne (forest : Forest) (widget : WidgetId) : Forest :=
  (forest.unlisted widget).vacate widget

section ReleasedOne

variable {forest : Forest} {widget : WidgetId}

/-- A widget that was released has nothing inside it any more, and the lists of others stay. -/
theorem children_releasedOne (other : WidgetId) :
    (forest.releasedOne widget).children other =
      if widget = other then [] else forest.children other := by
  rw [← children_erase]
  simp [releasedOne, unlisted, Forest.children]

/-- A widget that was released has no record any more, and others keep theirs. -/
theorem record?_releasedOne (hnodup : forest.live.Nodup) (other : WidgetId) :
    (forest.releasedOne widget).record? other =
      if other = widget then none else forest.record? other := by
  have hbefore : (forest.unlisted widget).live.Nodup := hnodup
  rw [releasedOne, record?_vacate hbefore]
  rfl

private theorem link?_releasedOne (hnodup : forest.live.Nodup) (other : WidgetId) :
    (forest.releasedOne widget).link? other =
      if other = widget then none else forest.link? other := by
  rw [link?, record?_releasedOne hnodup]
  split <;> rfl

private theorem live_releasedOne (hnodup : forest.live.Nodup) :
    (forest.releasedOne widget).live = forest.live.filter (· ≠ widget) := by
  have hbefore : (forest.unlisted widget).live.Nodup := hnodup
  rw [releasedOne, live_vacate hbefore]
  rfl

private theorem mem_live_releasedOne_iff (hnodup : forest.live.Nodup) {other : WidgetId} :
    other ∈ (forest.releasedOne widget).live ↔ other ∈ forest.live ∧ other ≠ widget := by
  simp [live_releasedOne hnodup]

/-- The first in line is released, and those inside it go to the end of the line. -/
theorem release_cons {inside : List WidgetId}
    (hinside : forest.childLists.get? widget = some inside) (waiting : List WidgetId) :
    forest.release (widget :: waiting) =
      (forest.releasedOne widget).release (waiting ++ inside) := by
  rw [release]
  split
  · next found hfound =>
    rw [hinside, Option.some.injEq] at hfound
    subst hfound
    rfl
  · next hnone =>
    rw [hinside] at hnone
    cases hnone

/-- A widget without a list of those inside it sends nobody to the end of the line. -/
theorem release_cons_of_none (hnone : forest.childLists.get? widget = none)
    (waiting : List WidgetId) :
    forest.release (widget :: waiting) = (forest.vacate widget).release waiting := by
  rw [release]
  split
  · next found hfound =>
    rw [hnone] at hfound
    cases hfound
  · rfl

end ReleasedOne

namespace SoundApart

variable {forest : Forest} {widget : WidgetId} {waiting : List WidgetId}

/-- What is inside the first in line does not wait yet. -/
theorem inside_first (hsound : forest.SoundApart (widget :: waiting)) {other : WidgetId}
    (hmem : other ∈ forest.children widget) :
    other ∉ waiting ∧ other ≠ widget ∧ forest.link? other = some (some widget) := by
  obtain ⟨hout, hlink⟩ := (hsound.children other widget).mp hmem
  simp only [List.mem_cons, not_or] at hout
  exact ⟨hout.2, hout.1, hlink⟩

private theorem mem_children_releasedOne_iff (hsound : forest.SoundApart (widget :: waiting))
    (other parent : WidgetId) :
    other ∈ (forest.releasedOne widget).children parent ↔
      other ∉ waiting ++ forest.children widget ∧
        (forest.releasedOne widget).link? other = some (some parent) := by
  rw [children_releasedOne, link?_releasedOne hsound.live_nodup, List.mem_append, not_or]
  by_cases hother : other = widget
  · -- The widget that is released is listed nowhere, and has no link left.
    subst hother
    have hlist := hsound.children other parent
    by_cases hparent : other = parent
    · simp [hparent]
    · simpa [hparent] using hlist
  · have hlist := hsound.children other parent
    have hwidget := hsound.children other widget
    simp only [List.mem_cons, hother, false_or] at hlist hwidget
    by_cases hparent : widget = parent
    · subst hparent
      simp only [if_true, List.not_mem_nil, hother, if_false, hlist]
      tauto
    · simp only [hparent, if_false, hother, hlist, hwidget]
      constructor
      · rintro ⟨hout, hlink⟩
        refine ⟨⟨hout, ?_⟩, hlink⟩
        rintro ⟨-, hagain⟩
        rw [hlink] at hagain
        simp only [Option.some.injEq] at hagain
        exact hparent hagain.symm
      · rintro ⟨⟨hout, -⟩, hlink⟩
        exact ⟨hout, hlink⟩

private theorem mem_roots_releasedOne_iff (hsound : forest.SoundApart (widget :: waiting))
    (other : WidgetId) :
    other ∈ (forest.releasedOne widget).roots ↔
      other ∉ waiting ++ forest.children widget ∧
        (forest.releasedOne widget).link? other = some none := by
  have hroots : (forest.releasedOne widget).roots = forest.roots := by
    simp [Forest.releasedOne, unlisted]
  rw [hroots, hsound.roots, link?_releasedOne hsound.live_nodup, List.mem_append, not_or,
    List.mem_cons, not_or]
  by_cases hother : other = widget
  · simp [hother]
  · simp only [hother, not_false_eq_true, true_and, if_false]
    constructor
    · rintro ⟨hout, hlink⟩
      refine ⟨⟨hout, ?_⟩, hlink⟩
      intro hmem
      obtain ⟨-, -, hagain⟩ := hsound.inside_first hmem
      rw [hlink] at hagain
      cases hagain
    · rintro ⟨⟨hout, -⟩, hlink⟩
      exact ⟨hout, hlink⟩

private theorem nodup_released (hsound : forest.SoundApart (widget :: waiting)) :
    (waiting ++ forest.children widget).Nodup := by
  obtain ⟨-, hwaiting⟩ := List.nodup_cons.mp hsound.waiting_nodup
  rw [List.nodup_append]
  refine ⟨hwaiting, ?_, ?_⟩
  · exact nodup_of_sorted (hsound.children_sorted widget)
  · rintro other hmem inner hinner rfl
    exact (hsound.inside_first hinner).1 hmem

/-- Releasing the first in line makes those inside it wait in its stead. Every other widget stays
where it was listed, or keeps waiting. -/
theorem releasedOne (hsound : forest.SoundApart (widget :: waiting)) :
    (forest.releasedOne widget).SoundApart (waiting ++ forest.children widget) := by
  have hnodup := hsound.live_nodup
  obtain ⟨hfirst, -⟩ := List.nodup_cons.mp hsound.waiting_nodup
  have hunlisted : ∀ slot, slot ∈ (forest.unlisted widget).free ↔
      (forest.unlisted widget).slots[slot]? = some none := hsound.vacant
  obtain ⟨hvacant, hfree⟩ := vacant_vacate widget hunlisted hsound.free_nodup
  refine
    { live_nodup := live_releasedOne hnodup ▸ hnodup.filter _
      vacant := hvacant
      free_nodup := hfree
      issued := ?_
      keys_distinct := ?_
      keys := ?_
      older := ?_
      children := hsound.mem_children_releasedOne_iff
      roots := hsound.mem_roots_releasedOne_iff
      children_sorted := ?_
      roots_sorted := ?_
      waiting_live := ?_
      waiting_nodup := hsound.nodup_released }
  · intro other hother
    have hissued := hsound.issued other ((mem_live_releasedOne_iff hnodup).mp hother).1
    simpa [Forest.releasedOne, unlisted] using hissued
  · simpa [Forest.releasedOne, unlisted] using hsound.keys_distinct.erase widget
  · intro other
    rw [mem_live_releasedOne_iff hnodup, ← hsound.keys]
    simp [Forest.releasedOne, unlisted, Table.keys_erase]
  · intro other parent hlink
    rw [link?_releasedOne hnodup] at hlink
    split at hlink
    · cases hlink
    · exact hsound.older other parent hlink
  · intro parent
    rw [children_releasedOne]
    split
    · exact List.Pairwise.nil
    · exact hsound.children_sorted parent
  · simpa [Forest.releasedOne, unlisted] using hsound.roots_sorted
  · intro other hother
    rw [mem_live_releasedOne_iff hnodup]
    rcases List.mem_append.mp hother with hmem | hmem
    · refine ⟨hsound.waiting_live other (List.mem_cons_of_mem _ hmem), ?_⟩
      rintro rfl
      exact hfirst hmem
    · obtain ⟨-, hne, hlink⟩ := hsound.inside_first hmem
      exact ⟨mem_live_of_link? hlink, hne⟩

/-- When all that wait are released, with all inside them, the forest is sound. -/
theorem release (hsound : forest.SoundApart waiting) : (forest.release waiting).Sound := by
  induction forest, waiting using Forest.release.induct with
  | case1 forest =>
    rw [Forest.release]
    exact hsound
  | case2 forest widget waiting inside hinside ih =>
    have hlist := hsound.get?_childLists (hsound.waiting_live widget List.mem_cons_self)
    rw [release_cons hinside]
    apply ih
    rw [hinside, Option.some.injEq] at hlist
    exact hlist ▸ hsound.releasedOne
  | case3 forest widget waiting hnone ih =>
    have hlist := hsound.get?_childLists (hsound.waiting_live widget List.mem_cons_self)
    rw [hnone] at hlist
    cases hlist

end SoundApart

section Disown

variable (forest : Forest) (parent : Option WidgetId) (widget : WidgetId)

/-- A widget that is disowned is missing where its parent lists it. -/
theorem children_disown (other : WidgetId) :
    (forest.disown parent widget).children other =
      if parent = some other then (forest.children other).filter (· ≠ widget)
      else forest.children other := by
  cases parent with
  | none => rfl
  | some outer =>
    rw [disown]
    cases hlist : forest.childLists.get? outer with
    | none =>
      dsimp only
      by_cases hother : outer = other
      · subst hother
        simp [children, hlist]
      · simp [hother]
    | some siblings =>
      dsimp only
      rw [children_insert]
      by_cases hother : outer = other
      · subst hother
        simp [children, hlist]
      · simp [hother, children]

/-- A root that is disowned is missing among the roots. -/
theorem roots_disown :
    (forest.disown parent widget).roots =
      if parent = none then forest.roots.filter (· ≠ widget) else forest.roots := by
  cases parent with
  | none => rfl
  | some outer =>
    rw [disown]
    cases forest.childLists.get? outer <;> rfl

/-- Nothing but lists is changed, and in them no key. -/
theorem disown_fields :
    (forest.disown parent widget).slots = forest.slots ∧
    (forest.disown parent widget).free = forest.free ∧
    (forest.disown parent widget).constructed = forest.constructed ∧
    (forest.disown parent widget).history = forest.history ∧
    (forest.disown parent widget).childLists.keys = forest.childLists.keys := by
  cases parent with
  | none => exact ⟨rfl, rfl, rfl, rfl, rfl⟩
  | some outer =>
    rw [disown]
    cases hlist : forest.childLists.get? outer with
    | none => exact ⟨rfl, rfl, rfl, rfl, rfl⟩
    | some siblings =>
      refine ⟨rfl, rfl, rfl, rfl, ?_⟩
      dsimp only
      rw [Table.keys_insert, if_pos (Table.mem_keys_of_get? hlist)]

end Disown

namespace Sound

variable {forest : Forest} {widget : WidgetId}

/-- A widget that was taken out of the list that it is in waits for its release. -/
theorem disown (hsound : forest.Sound) {parent : Option WidgetId}
    (hlink : forest.link? widget = some parent) :
    (forest.disown parent widget).SoundApart [widget] := by
  obtain ⟨hslots, hfree, hconstructed, -, hkeys⟩ := disown_fields forest parent widget
  have hlive : (forest.disown parent widget).live = forest.live := by
    rw [live, live, widgets, widgets, hslots]
  have hlinks (other : WidgetId) :
      (forest.disown parent widget).link? other = forest.link? other := by
    rw [link?, link?, record?, record?, widgets, widgets, hslots]
  refine
    { live_nodup := hlive ▸ hsound.live_nodup
      vacant := hslots ▸ hfree ▸ hsound.vacant
      free_nodup := hfree ▸ hsound.free_nodup
      issued := hlive ▸ hconstructed ▸ hsound.issued
      keys_distinct := ?_
      keys := hlive ▸ hkeys ▸ hsound.keys
      older := fun other outer hother => hsound.older other outer (hlinks other ▸ hother)
      children := ?_
      roots := ?_
      children_sorted := ?_
      roots_sorted := ?_
      waiting_live := ?_
      waiting_nodup := List.nodup_singleton _ }
  · rw [Table.Distinct, hkeys]
    exact hsound.keys_distinct
  · intro other outer
    rw [children_disown, hlinks, List.mem_singleton]
    split
    · simp [hsound.mem_children_iff, and_comm]
    · next hparent =>
      rw [hsound.mem_children_iff]
      constructor
      · intro hother
        refine ⟨?_, hother⟩
        rintro rfl
        exact hparent (Option.some.inj (hlink.symm.trans hother))
      · exact And.right
  · intro other
    rw [roots_disown, hlinks, List.mem_singleton]
    split
    · simp [hsound.mem_roots_iff, and_comm]
    · next hparent =>
      rw [hsound.mem_roots_iff]
      constructor
      · intro hother
        refine ⟨?_, hother⟩
        rintro rfl
        exact hparent (Option.some.inj (hlink.symm.trans hother))
      · exact And.right
  · intro outer
    rw [children_disown]
    split
    · exact (hsound.children_sorted outer).filter _
    · exact hsound.children_sorted outer
  · rw [roots_disown]
    split
    · exact hsound.roots_sorted.filter _
    · exact hsound.roots_sorted
  · intro other hother
    rw [List.mem_singleton] at hother
    exact hlive ▸ hother ▸ mem_live_of_link? hlink

/-- Destroying a widget keeps a forest sound, and so does the attempt on one that is not live. -/
theorem destroy (hsound : forest.Sound) (widget : WidgetId) :
    (forest.destroy widget).2.Sound := by
  unfold Forest.destroy
  split
  · exact hsound
  · next record hrecord =>
    have hlink : forest.link? widget = some record.parent := by simp [link?, hrecord]
    have hreleased := (hsound.disown hlink).release
    have hlog : Touches widget ((forest.disown record.parent widget).release [widget])
        (((forest.disown record.parent widget).release [widget]).log (.destroyed widget)) :=
      .of_slots widget rfl rfl rfl rfl rfl
    exact hlog.sound hreleased

end Sound

end WidgetTree.Forest
