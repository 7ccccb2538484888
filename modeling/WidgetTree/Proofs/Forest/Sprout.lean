import WidgetTree.Proofs.Forest.Fell
import WidgetTree.Proofs.Forest.Traversal

namespace WidgetTree.Forest

/-- Widgets that are not in `base` are in the subtree of the next widget after it, which was added
inside the target; what `base` holds is as it was. -/
structure Sprouted (base : Forest) (target : Option WidgetId) (forest : Forest) : Prop where
  sound : forest.Sound
  constructed : base.constructed < forest.constructed
  records : ∀ elder, elder.number ≤ base.constructed → forest.record? elder = base.record? elder
  children : ∀ elder, elder.number ≤ base.constructed →
    forest.children elder = base.children elder ++ if target = some elder then [base.next] else []
  roots : forest.roots = base.roots ++ if target = none then [base.next] else []
  top : forest.link? base.next = some target
  inside : ∀ widget ∈ forest.live, base.next.number < widget.number →
    ∃ parent, forest.link? widget = some (some parent) ∧ base.next.number ≤ parent.number

/-- Two forests hold the same widgets, with the same records and lists. -/
structure SameWidgets (first second : Forest) : Prop where
  live : first.live.Perm second.live
  records : ∀ widget, first.record? widget = second.record? widget
  lists : ∀ widget, first.childLists.get? widget = second.childLists.get? widget
  roots : first.roots = second.roots

/-- What a forest holds that another does not is a subtree, and its top is the next widget after the
other. There may be nothing. -/
def AddsSubtree (base forest : Forest) : Prop :=
  ∀ widget, widget ∈ forest.walk base.next ↔ widget ∈ forest.live ∧ widget ∉ base.live

/-- Widgets younger than all that a forest has are in no forest with the same widgets. -/
theorem SameWidgets.gone {forest base : Forest} (hsame : SameWidgets forest base)
    (hbase : base.Sound) : ∀ widget, base.next.number ≤ widget.number → widget ∉ forest.live := by
  intro widget hyounger hlive
  have hissued := (hbase.issued widget (hsame.live.mem_iff.mp hlive)).2
  have hnext : base.next.number = base.constructed + 1 := rfl
  omega

/-- The next widget has the number behind those of all that were constructed. -/
theorem number_next (forest : Forest) : forest.next.number = forest.constructed + 1 := rfl

namespace Sound

variable {forest : Forest}

private theorem get?_childLists (hsound : forest.Sound) (widget : WidgetId) :
    forest.childLists.get? widget =
      if widget ∈ forest.live then some (forest.children widget) else none := by
  split
  · next hlive => exact SoundApart.get?_childLists hsound hlive
  · next hdead =>
    rw [Table.get?_eq_none_iff, hsound.keys]
    exact hdead

/-- A widget that is not live lists nothing. -/
theorem children_of_not_mem (hsound : forest.Sound) {widget : WidgetId}
    (hdead : widget ∉ forest.live) : forest.children widget = [] := by
  rw [Forest.children, hsound.get?_childLists, if_neg hdead]
  rfl

/-- Forests with the same records hold the same widgets if their lists agree. -/
theorem sameWidgets {other : Forest} (hsound : forest.Sound) (hother : other.Sound)
    (hrecords : ∀ widget, forest.record? widget = other.record? widget)
    (hchildren : ∀ widget ∈ other.live, forest.children widget = other.children widget)
    (hroots : forest.roots = other.roots) : SameWidgets forest other := by
  have hlive : ∀ widget, widget ∈ forest.live ↔ widget ∈ other.live := by
    intro widget
    rw [mem_live_iff, mem_live_iff, hrecords]
  refine ⟨?_, hrecords, ?_, hroots⟩
  · exact (List.perm_ext_iff_of_nodup hsound.live_nodup hother.live_nodup).mpr hlive
  · intro widget
    rw [hsound.get?_childLists, hother.get?_childLists]
    by_cases hwidget : widget ∈ other.live
    · rw [if_pos hwidget, if_pos ((hlive widget).mpr hwidget), hchildren widget hwidget]
    · have hdead : widget ∉ forest.live := fun hmem => hwidget ((hlive widget).mp hmem)
      rw [if_neg hwidget, if_neg hdead]

end Sound

namespace Sprouted

variable {base forest after : Forest} {target : Option WidgetId} {widget : WidgetId}

/-- The forest sprouts when a widget is planted. -/
theorem of_plant (hsound : base.Sound) (hparent : ∀ outer ∈ target, outer ∈ base.live)
    (widgetType : String) (args : Fields Value) :
    Sprouted base target (base.plant widgetType target args) where
  sound := hsound.plant widgetType target args hparent
  constructed := by simp
  records elder helder := by
    have hne : elder ≠ base.next := by
      rintro rfl
      rw [number_next] at helder
      omega
    rw [record?_plant widgetType target args hsound, if_neg hne]
  children elder _ := children_plant widgetType target args hsound elder
  roots := roots_plant widgetType target args
  top := by rw [link?_plant widgetType target args hsound, if_pos rfl]
  inside other hlive hyounger := by
    rcases (mem_live_plant_iff widgetType target args hsound).mp hlive with hold | rfl
    · have hissued := (hsound.issued other hold).2
      rw [number_next] at hyounger
      omega
    · omega

variable (hsprouted : Sprouted base target forest)
include hsprouted

private theorem top_live : base.next ∈ forest.live := mem_live_of_link? hsprouted.top

/-- Work on a widget of the subtree stays inside it. -/
theorem touches (hinside : base.next.number ≤ widget.number)
    (htouches : Touches widget forest after) : Sprouted base target after where
  sound := htouches.sound hsprouted.sound
  constructed := htouches.constructed ▸ hsprouted.constructed
  records elder helder := by
    have hne : elder ≠ widget := by
      rintro rfl
      rw [number_next] at hinside
      omega
    rw [htouches.others elder hne, hsprouted.records elder helder]
  children elder helder := by rw [htouches.children, hsprouted.children elder helder]
  roots := htouches.roots.trans hsprouted.roots
  top := (htouches.link _).trans hsprouted.top
  inside other hlive hyounger := by
    rw [htouches.live] at hlive
    rw [htouches.link]
    exact hsprouted.inside other hlive hyounger

/-- A widget planted inside the subtree belongs to it. -/
theorem plant (hparent : widget ∈ forest.live) (hinside : base.next.number ≤ widget.number)
    (widgetType : String) (args : Fields Value) :
    Sprouted base target (forest.plant widgetType (some widget) args) := by
  have hsound := hsprouted.sound
  have hgrown := hsprouted.constructed
  have hlive : ∀ outer ∈ some widget, outer ∈ forest.live := by
    rintro outer ⟨⟩
    exact hparent
  have helder : ∀ elder, elder.number ≤ base.constructed → elder ≠ forest.next := by
    rintro elder helder rfl
    rw [number_next] at helder
    omega
  exact {
    sound := hsound.plant widgetType (some widget) args hlive
    constructed := by
      rw [constructed_plant]
      omega
    records := fun elder hnumber => by
      rw [record?_plant widgetType (some widget) args hsound, if_neg (helder elder hnumber)]
      exact hsprouted.records elder hnumber
    children := fun elder hnumber => by
      have hne : some widget ≠ some elder := by
        rintro ⟨⟩
        rw [number_next] at hinside
        omega
      rw [children_plant widgetType (some widget) args hsound, if_neg hne, List.append_nil]
      exact hsprouted.children elder hnumber
    roots := by
      rw [roots_plant, if_neg (by simp), List.append_nil]
      exact hsprouted.roots
    top := by
      have hne : base.next ≠ forest.next := by
        intro heq
        have hnumber := congrArg WidgetId.number heq
        rw [number_next, number_next] at hnumber
        omega
      rw [link?_plant widgetType (some widget) args hsound, if_neg hne]
      exact hsprouted.top
    inside := fun other hother hyounger => by
      rw [link?_plant widgetType (some widget) args hsound]
      rcases (mem_live_plant_iff widgetType (some widget) args hsound).mp hother with hold | rfl
      · have hne : other ≠ forest.next := by
          rintro rfl
          exact hsound.next_not_live hold
        rw [if_neg hne]
        exact hsprouted.inside other hold hyounger
      · exact ⟨widget, if_pos rfl, hinside⟩ }

/-- Older widgets and the roots do not list a widget inside the subtree. -/
theorem not_listed (hyounger : base.next.number < widget.number) :
    (∀ elder, elder.number ≤ base.constructed → widget ∉ forest.children elder) ∧
      widget ∉ forest.roots := by
  have hsound := hsprouted.sound
  constructor
  · intro elder helder hmem
    have hlink := hsound.mem_children_iff.mp hmem
    obtain ⟨parent, hparent, hinside⟩ :=
      hsprouted.inside widget (mem_live_of_link? hlink) hyounger
    obtain rfl : elder = parent := by simpa [hlink] using hparent
    rw [number_next] at hinside
    omega
  · intro hmem
    have hlink := hsound.mem_roots_iff.mp hmem
    obtain ⟨parent, hparent, -⟩ := hsprouted.inside widget (mem_live_of_link? hlink) hyounger
    simp [hlink] at hparent

/-- What is destroyed inside the subtree leaves it standing. -/
theorem felled (hyounger : base.next.number < widget.number)
    (hfelled : Felled widget forest after) : Sprouted base target after := by
  obtain ⟨hlists, hroots⟩ := hsprouted.not_listed hyounger
  have holder : ∀ elder : WidgetId, elder.number ≤ base.constructed →
      elder.number < widget.number := by
    intro elder helder
    rw [number_next] at hyounger
    omega
  exact {
    sound := hfelled.sound
    constructed := hfelled.constructed ▸ hsprouted.constructed
    records := fun elder helder =>
      (hfelled.records elder (holder elder helder)).trans (hsprouted.records elder helder)
    children := fun elder helder => by
      rw [hfelled.children elder (holder elder helder), filter_ne_of_not_mem (hlists elder helder)]
      exact hsprouted.children elder helder
    roots := by
      rw [hfelled.roots, filter_ne_of_not_mem hroots]
      exact hsprouted.roots
    top := by
      rw [link?, hfelled.records base.next hyounger]
      exact hsprouted.top
    inside := fun other hlive hother => by
      rw [link?, hfelled.record?_of_mem_live hlive]
      exact hsprouted.inside other (hfelled.mem_live_of_mem hlive) hother }

/-- Destroying a widget of the subtree, other than its top, leaves the forest sprouted. -/
theorem destroy (hyounger : base.next.number < widget.number) :
    Sprouted base target (forest.destroy widget).2 := by
  by_cases hlive : widget ∈ forest.live
  · obtain ⟨after, hdestroy, hfelled⟩ := hsprouted.sound.destroy_felled hlive
    rw [hdestroy]
    exact hsprouted.felled hyounger hfelled
  · rw [destroy_of_not_mem hlive]
    exact hsprouted

/-- Nothing younger outlives the top of the subtree: the widget around it would have to outlive the
top as well, and is older. -/
theorem older_of_felled (hfelled : Felled base.next forest after) :
    ∀ number widget, widget.number = number → widget ∈ after.live →
      widget.number ≤ base.constructed := by
  intro number
  induction number using Nat.strongRecOn with
  | ind number ih =>
    rintro widget rfl hlive
    by_contra hyounger
    have hne : widget ≠ base.next := by
      rintro rfl
      exact hfelled.gone hlive
    have hnumber : base.next.number < widget.number := by
      have hdiffer : widget.number ≠ base.constructed + 1 := by
        intro heq
        exact hne (by cases widget; simpa [next] using heq)
      rw [number_next]
      omega
    obtain ⟨parent, hlink, hinside⟩ :=
      hsprouted.inside widget (hfelled.mem_live_of_mem hlive) hnumber
    have hlinkAfter : after.link? widget = some (some parent) := by
      rw [link?, hfelled.record?_of_mem_live hlive]
      exact hlink
    have holder := hsprouted.sound.older widget parent hlink
    have hparent := ih parent.number holder parent rfl (hfelled.sound.parent_live hlinkAfter)
    rw [number_next] at hinside
    omega

/-- Destroying the top of the subtree leaves what was there before it sprouted. -/
theorem destroy_top (hbase : base.Sound) :
    ∃ after, forest.destroy base.next = (.ok (), after) ∧ SameWidgets after base ∧ after.Sound ∧
      after.constructed = forest.constructed := by
  obtain ⟨after, hdestroy, hfelled⟩ := hsprouted.sound.destroy_felled hsprouted.top_live
  have hissued : ∀ widget ∈ base.live, widget.number ≤ base.constructed :=
    fun widget hlive => (hbase.issued widget hlive).2
  have hnew : base.next ∉ base.live := hbase.next_not_live
  refine ⟨after, hdestroy, ?_, hfelled.sound, hfelled.constructed⟩
  have hrecords : ∀ widget, after.record? widget = base.record? widget := by
    intro widget
    by_cases hnumber : widget.number ≤ base.constructed
    · have holder : widget.number < base.next.number := by
        rw [number_next]
        omega
      rw [hfelled.records widget holder, hsprouted.records widget hnumber]
    · have hafter : widget ∉ after.live := fun hlive =>
        hnumber (hsprouted.older_of_felled hfelled _ widget rfl hlive)
      have hbefore : widget ∉ base.live := fun hlive => hnumber (hissued widget hlive)
      rw [record?_eq_none_iff.mpr hafter, record?_eq_none_iff.mpr hbefore]
  refine hfelled.sound.sameWidgets hbase hrecords ?_ ?_
  · intro widget hlive
    have holder : widget.number < base.next.number := by
      have hnumber := hissued widget hlive
      rw [number_next]
      omega
    have hkept : base.next ∉ base.children widget := fun hmem =>
      hnew (mem_live_of_link? (hbase.mem_children_iff.mp hmem))
    rw [hfelled.children widget holder, hsprouted.children widget (hissued widget hlive),
      List.filter_append, filter_ne_of_not_mem hkept]
    split <;> simp
  · have hkept : base.next ∉ base.roots := fun hmem =>
      hnew (mem_live_of_link? (hbase.mem_roots_iff.mp hmem))
    rw [hfelled.roots, hsprouted.roots, List.filter_append, filter_ne_of_not_mem hkept]
    split <;> simp

/-- The subtree is visited from its top: whatever is live in it has its parent in it. -/
theorem mem_walk_of_younger : ∀ number widget, widget.number = number → widget ∈ forest.live →
    base.next.number ≤ widget.number → widget ∈ forest.walk base.next := by
  obtain ⟨hstack, hinside⟩ := (walks_walk hsprouted.sound base.next).complete
  intro number
  induction number using Nat.strongRecOn with
  | ind number ih =>
    rintro widget rfl hlive hyounger
    rcases Nat.eq_or_lt_of_le hyounger with heq | hlt
    · obtain rfl : base.next = widget := by
        cases widget
        exact congrArg WidgetId.mk heq
      exact hstack base.next List.mem_cons_self hlive
    · obtain ⟨parent, hlink, hparent⟩ := hsprouted.inside widget hlive hlt
      have holder := hsprouted.sound.older widget parent hlink
      have hparentLive := hsprouted.sound.parent_live hlink
      have hvisited := ih parent.number holder parent rfl hparentLive hparent
      exact hinside parent hvisited widget (hsprouted.sound.mem_children_iff.mpr hlink) hlive

/-- A forest that has sprouted has a subtree more. -/
theorem addsSubtree (hbase : base.Sound) : AddsSubtree base forest := by
  intro widget
  constructor
  · intro hvisited
    have hinside : ∀ outer : WidgetId, base.next.number ≤ outer.number →
        ∀ inner ∈ forest.children outer, base.next.number ≤ inner.number := by
      intro outer houter inner hinner
      have hlt := hsprouted.sound.lt_of_mem_children hinner
      omega
    obtain ⟨hlive, hyounger⟩ :=
      (walks_walk hsprouted.sound base.next).keeps hinside (by simp) widget hvisited
    refine ⟨hlive, ?_⟩
    intro hold
    have hissued := (hbase.issued widget hold).2
    rw [number_next] at hyounger
    omega
  · rintro ⟨hlive, hnew⟩
    refine hsprouted.mem_walk_of_younger _ widget rfl hlive ?_
    by_contra holder
    rw [number_next] at holder
    apply hnew
    rw [mem_live_iff, ← hsprouted.records widget (by omega), ← mem_live_iff]
    exact hlive

end Sprouted

end WidgetTree.Forest
