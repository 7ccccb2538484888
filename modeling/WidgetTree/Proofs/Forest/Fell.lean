import WidgetTree.Proofs.Forest.Destroy

namespace WidgetTree.Forest

/-- Outside nothing has changed: a widget that is not inside has its record and its list as before.
None has come anywhere, and variables hold what they held. -/
structure KeepsOutside (inside : WidgetId → Prop) (before after : Forest) : Prop where
  constructed : after.constructed = before.constructed
  shrinks : ∀ other, after.record? other = before.record? other ∨ after.record? other = none
  records : ∀ other, ¬ inside other → after.record? other = before.record? other
  children : ∀ other, ¬ inside other → after.children other = before.children other
  roots : after.roots = before.roots
  heldValues : after.heldValues = before.heldValues

namespace KeepsOutside

variable {inside : WidgetId → Prop} {first second third : Forest}

private theorem refl (inside : WidgetId → Prop) (forest : Forest) :
    KeepsOutside inside forest forest :=
  ⟨rfl, fun _ => .inl rfl, fun _ _ => rfl, fun _ _ => rfl, rfl, rfl⟩

private theorem trans (hfirst : KeepsOutside inside first second)
    (hsecond : KeepsOutside inside second third) : KeepsOutside inside first third where
  constructed := hsecond.constructed.trans hfirst.constructed
  shrinks other := by
    rcases hsecond.shrinks other with hkept | hgone
    · rw [hkept]
      exact hfirst.shrinks other
    · exact .inr hgone
  records other hother := (hsecond.records other hother).trans (hfirst.records other hother)
  children other hother := (hsecond.children other hother).trans (hfirst.children other hother)
  roots := hsecond.roots.trans hfirst.roots
  heldValues := hsecond.heldValues.trans hfirst.heldValues

end KeepsOutside

/-- Widgets that are gone are not numbered below `oldest`, and none was changed or has come. -/
structure KeepsElders (oldest : Nat) (before after : Forest) : Prop where
  constructed : after.constructed = before.constructed
  shrinks : ∀ other, after.record? other = before.record? other ∨ after.record? other = none
  records : ∀ other, other.number < oldest → after.record? other = before.record? other
  children : ∀ other, other.number < oldest → after.children other = before.children other
  roots : after.roots = before.roots
  heldValues : after.heldValues = before.heldValues

section Release

variable {forest : Forest} {widget : WidgetId} {waiting : List WidgetId} {oldest : Nat}
  {inside : WidgetId → Prop}

@[simp] theorem heldValues_vacate (forest : Forest) (widget : WidgetId) :
    (forest.vacate widget).heldValues = forest.heldValues := by
  unfold vacate
  dsimp only
  split <;> rfl

private theorem releasedOne_keepsOutside (hnodup : forest.live.Nodup) (hwidget : inside widget) :
    KeepsOutside inside forest (forest.releasedOne widget) where
  constructed := by simp [releasedOne, unlisted]
  shrinks other := by
    rw [record?_releasedOne hnodup]
    split
    · exact .inr rfl
    · exact .inl rfl
  records other hother := by
    have hne : other ≠ widget := by
      rintro rfl
      exact hother hwidget
    rw [record?_releasedOne hnodup, if_neg hne]
  children other hother := by
    have hne : widget ≠ other := by
      rintro rfl
      exact hother hwidget
    rw [children_releasedOne, if_neg hne]
  roots := by simp [releasedOne, unlisted]
  heldValues := by simp [releasedOne, unlisted]

private theorem mem_children_of_releasedOne {other inner : WidgetId}
    (hinner : inner ∈ (forest.releasedOne widget).children other) :
    inner ∈ forest.children other := by
  rw [children_releasedOne] at hinner
  split at hinner
  · cases hinner
  · exact hinner

/-- The widgets that wait are inside, and so are those inside them. -/
theorem release_keepsOutside (hsound : forest.SoundApart waiting)
    (hwaiting : ∀ widget ∈ waiting, inside widget)
    (hclosed : ∀ widget, inside widget → ∀ inner ∈ forest.children widget, inside inner) :
    KeepsOutside inside forest (forest.release waiting) := by
  induction forest, waiting using Forest.release.induct with
  | case1 forest =>
    rw [Forest.release]
    exact .refl inside forest
  | case2 forest widget waiting list hlisted ih =>
    have hlist := hsound.get?_childLists (hsound.waiting_live widget List.mem_cons_self)
    rw [hlisted, Option.some.injEq] at hlist
    subst hlist
    have hwidget : inside widget := hwaiting widget List.mem_cons_self
    rw [release_cons hlisted]
    refine (releasedOne_keepsOutside hsound.live_nodup hwidget).trans
      (ih hsound.releasedOne ?_ ?_)
    · intro other hother
      rcases List.mem_append.mp hother with hwaits | hinner
      · exact hwaiting other (List.mem_cons_of_mem _ hwaits)
      · exact hclosed widget hwidget other hinner
    · intro other hother inner hinner
      exact hclosed other hother inner (mem_children_of_releasedOne hinner)
  | case3 forest widget waiting hnone ih =>
    have hlist := hsound.get?_childLists (hsound.waiting_live widget List.mem_cons_self)
    rw [hnone] at hlist
    cases hlist

/-- The widgets that wait are young, and those inside them are younger still. -/
theorem release_keepsElders (hsound : forest.SoundApart waiting)
    (hyoung : ∀ widget ∈ waiting, oldest ≤ widget.number) :
    KeepsElders oldest forest (forest.release waiting) := by
  have hclosed : ∀ widget : WidgetId, oldest ≤ widget.number →
      ∀ inner ∈ forest.children widget, oldest ≤ inner.number := by
    intro widget hwidget inner hinner
    have hlink := ((hsound.children inner widget).mp hinner).2
    have holder := hsound.older inner widget hlink
    omega
  have hkeeps := release_keepsOutside hsound hyoung hclosed
  exact ⟨hkeeps.constructed, hkeeps.shrinks,
    fun other hother => hkeeps.records other (Nat.not_le.mpr hother),
    fun other hother => hkeeps.children other (Nat.not_le.mpr hother), hkeeps.roots,
    hkeeps.heldValues⟩

private theorem release_shrinks (hsound : forest.SoundApart waiting) (other : WidgetId) :
    (forest.release waiting).record? other = forest.record? other ∨
      (forest.release waiting).record? other = none :=
  (release_keepsElders hsound (fun _ _ => Nat.zero_le _)).shrinks other

/-- What waits is gone in the end. -/
theorem not_mem_live_release (hsound : forest.SoundApart (widget :: waiting)) :
    widget ∉ (forest.release (widget :: waiting)).live := by
  have hlist := hsound.get?_childLists (hsound.waiting_live widget List.mem_cons_self)
  have hgone : (forest.releasedOne widget).record? widget = none := by
    rw [record?_releasedOne hsound.live_nodup, if_pos rfl]
  rw [release_cons hlist, ← record?_eq_none_iff]
  rcases release_shrinks hsound.releasedOne widget with hkept | hnone
  · rw [hkept, hgone]
  · exact hnone

end Release

/-- A widget was destroyed: it is gone, older widgets are as they were but do not list it, and
widgets that went with it are gone altogether. Widgets are younger than those around them, so that
every widget stays that is older than the one destroyed. -/
structure Felled (widget : WidgetId) (before after : Forest) : Prop where
  sound : after.Sound
  constructed : after.constructed = before.constructed
  gone : widget ∉ after.live
  shrinks : ∀ other, after.record? other = before.record? other ∨ after.record? other = none
  records : ∀ other, other.number < widget.number → after.record? other = before.record? other
  children : ∀ other, other.number < widget.number →
    after.children other = (before.children other).filter (· ≠ widget)
  roots : after.roots = before.roots.filter (· ≠ widget)
  heldValues : after.heldValues = before.heldValues

/-- A widget that outlives the destruction of another has kept its record. -/
theorem Felled.record?_of_mem_live {widget other : WidgetId} {before after : Forest}
    (hfelled : Felled widget before after) (hlive : other ∈ after.live) :
    after.record? other = before.record? other := by
  obtain ⟨record, hrecord⟩ := mem_live_iff.mp hlive
  rcases hfelled.shrinks other with hkept | hgone
  · exact hkept
  · rw [hrecord] at hgone
    cases hgone

/-- What is live after a destruction was live before. -/
theorem Felled.mem_live_of_mem {widget other : WidgetId} {before after : Forest}
    (hfelled : Felled widget before after) (hlive : other ∈ after.live) : other ∈ before.live := by
  have hkept := hfelled.record?_of_mem_live hlive
  rw [mem_live_iff] at hlive ⊢
  rwa [← hkept]

section Destroy

variable {forest : Forest} {widget : WidgetId}

/-- A widget that is not live cannot be destroyed. -/
theorem destroy_of_not_mem (hdead : widget ∉ forest.live) :
    forest.destroy widget = (.error .deadWidget, forest) := by
  rw [destroy, record?_eq_none_iff.mpr hdead]

/-- A live widget is destroyed by taking it out of its list and releasing it with what is inside it.
-/
theorem destroy_of_record? {record : Record} (hrecord : forest.record? widget = some record) :
    forest.destroy widget =
      (.ok (),
        ((forest.disown record.parent widget).release [widget]).log (.destroyed widget)) := by
  rw [destroy, hrecord]

/-- A list loses nothing that is not in it. -/
theorem filter_ne_of_not_mem {list : List WidgetId} (hmem : widget ∉ list) :
    list.filter (· ≠ widget) = list := by
  rw [List.filter_eq_self]
  intro other hother
  have hne : other ≠ widget := by
    rintro rfl
    exact hmem hother
  simpa using hne

/-- A widget is listed where its record says, and nowhere else. -/
theorem Sound.children_disown_eq_filter (hsound : forest.Sound) {parent : Option WidgetId}
    (hlink : forest.link? widget = some parent) (other : WidgetId) :
    (forest.disown parent widget).children other = (forest.children other).filter (· ≠ widget) := by
  rw [children_disown]
  split
  · rfl
  · next hparent =>
    refine (filter_ne_of_not_mem ?_).symm
    intro hmem
    rw [hsound.mem_children_iff, hlink] at hmem
    exact hparent (Option.some.inj hmem)

private theorem Sound.roots_disown_eq_filter (hsound : forest.Sound) {parent : Option WidgetId}
    (hlink : forest.link? widget = some parent) :
    (forest.disown parent widget).roots = forest.roots.filter (· ≠ widget) := by
  rw [roots_disown]
  split
  · rfl
  · next hparent =>
    refine (filter_ne_of_not_mem ?_).symm
    intro hmem
    rw [hsound.mem_roots_iff, hlink] at hmem
    exact hparent (Option.some.inj hmem)

/-- Disowning a widget leaves the state variables. -/
theorem heldValues_disown (parent : Option WidgetId) :
    (forest.disown parent widget).heldValues = forest.heldValues := by
  cases parent with
  | none => rfl
  | some outer =>
    rw [disown]
    cases forest.childLists.get? outer <;> rfl

/-- Disowning a widget leaves the records. -/
theorem record?_disown (parent : Option WidgetId) (other : WidgetId) :
    (forest.disown parent widget).record? other = forest.record? other := by
  rw [record?, record?, widgets, widgets, (disown_fields forest parent widget).1]

/-- Destroying a live widget succeeds and fells it. -/
theorem Sound.destroy_felled (hsound : forest.Sound) (hlive : widget ∈ forest.live) :
    ∃ after, forest.destroy widget = (.ok (), after) ∧ Felled widget forest after := by
  obtain ⟨record, hrecord⟩ := mem_live_iff.mp hlive
  have hlink : forest.link? widget = some record.parent := by simp [link?, hrecord]
  have hdestroy := destroy_of_record? hrecord
  have hdisowned := hsound.disown hlink
  have hkeeps : KeepsElders widget.number (forest.disown record.parent widget)
      ((forest.disown record.parent widget).release [widget]) :=
    release_keepsElders hdisowned (by simp)
  have hsoundAfter := hsound.destroy widget
  rw [hdestroy] at hsoundAfter
  refine ⟨_, hdestroy, ?_⟩
  have hconstructed := (disown_fields forest record.parent widget).2.2.1
  exact {
    sound := hsoundAfter
    constructed := hkeeps.constructed.trans hconstructed
    gone := not_mem_live_release hdisowned
    shrinks := fun other => by
      have hshrinks := hkeeps.shrinks other
      rwa [record?_disown] at hshrinks
    records := fun other hother => (hkeeps.records other hother).trans (record?_disown _ other)
    children := fun other hother =>
      (hkeeps.children other hother).trans (hsound.children_disown_eq_filter hlink other)
    roots := hkeeps.roots.trans (hsound.roots_disown_eq_filter hlink)
    heldValues := hkeeps.heldValues.trans (heldValues_disown _) }

/-- A widget with nothing inside it goes alone. -/
theorem Sound.destroy_leaf (hsound : forest.Sound) (hlive : widget ∈ forest.live)
    (hleaf : forest.children widget = []) :
    ∃ after, forest.destroy widget = (.ok (), after) ∧ Felled widget forest after ∧
      (∀ other, other ≠ widget → after.record? other = forest.record? other) ∧
      ∀ other, other ≠ widget →
        after.children other = (forest.children other).filter (· ≠ widget) := by
  obtain ⟨after, hdestroy, hfelled⟩ := hsound.destroy_felled hlive
  obtain ⟨record, hrecord⟩ := mem_live_iff.mp hlive
  have hlink : forest.link? widget = some record.parent := by simp [link?, hrecord]
  have hdisowned := hsound.disown hlink
  have hbare : (forest.disown record.parent widget).children widget = [] := by
    rw [hsound.children_disown_eq_filter hlink, hleaf, List.filter_nil]
  have hlist := hdisowned.get?_childLists (hdisowned.waiting_live widget List.mem_cons_self)
  have hrelease : (forest.disown record.parent widget).release [widget] =
      (forest.disown record.parent widget).releasedOne widget := by
    rw [release_cons hlist, hbare, List.append_nil, release]
  have hafter : after = ((forest.disown record.parent widget).releasedOne widget).log
      (.destroyed widget) := by
    rw [destroy_of_record? hrecord, hrelease] at hdestroy
    exact (Prod.mk.inj hdestroy).2.symm
  refine ⟨after, hdestroy, hfelled, ?_, ?_⟩
  · intro other hother
    rw [hafter, record?_log, record?_releasedOne hdisowned.live_nodup, if_neg hother,
      record?_disown]
  · intro other hother
    have hlists : after.children other =
        ((forest.disown record.parent widget).releasedOne widget).children other := by
      rw [hafter]
      rfl
    rw [hlists, children_releasedOne, if_neg (Ne.symm hother),
      hsound.children_disown_eq_filter hlink]

end Destroy

end WidgetTree.Forest
