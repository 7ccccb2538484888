import WidgetTree.Proofs.Forest.Inside

namespace WidgetTree.Forest

variable {forest : Forest} {widget outer top : WidgetId}

/-- A climb visits what it visits: there is no choice at any step. -/
theorem Climbs.unique {first second : List WidgetId} (hfirst : forest.Climbs widget first)
    (hsecond : forest.Climbs widget second) : first = second := by
  induction hfirst generalizing second with
  | top hparent =>
    cases hsecond with
    | top _ => rfl
    | up hagain _ =>
      rw [hparent] at hagain
      cases hagain
  | up hparent tail ih =>
    cases hsecond with
    | top hagain =>
      rw [hparent] at hagain
      cases hagain
    | up hagain again =>
      rw [hparent] at hagain
      cases hagain
      rw [ih again]

namespace Sound

variable (hsound : forest.Sound)
include hsound

/-- Around a widget is the one that lists it, and whatever is around that one. -/
theorem ancestors_of_mem_children (hmem : widget ∈ forest.children outer) :
    forest.ancestors widget = outer :: forest.ancestors outer := by
  have hparent := parent?_eq_some_iff.mpr (hsound.mem_children_iff.mp hmem)
  exact (climbs_ancestors hsound widget).unique (.up hparent (climbs_ancestors hsound outer))

private theorem ancestors_of_mem_roots (hmem : widget ∈ forest.roots) :
    forest.ancestors widget = [] := by
  have hlink := hsound.mem_roots_iff.mp hmem
  refine (climbs_ancestors hsound widget).unique (.top ?_)
  cases hparent : forest.parent? widget with
  | none => rfl
  | some parent =>
    rw [parent?_eq_some_iff.mp hparent] at hlink
    cases hlink

/-- The chain from a widget up to its root goes on from each of its members as from the widget. -/
theorem suffix_of_mem_ancestors (hmem : outer ∈ widget :: forest.ancestors widget) :
    outer :: forest.ancestors outer <:+ widget :: forest.ancestors widget := by
  have hclimbs := climbs_ancestors hsound widget
  generalize forest.ancestors widget = above at hclimbs hmem ⊢
  induction hclimbs with
  | @top widget hparent =>
    obtain rfl := List.mem_singleton.mp hmem
    have habove := (climbs_ancestors hsound outer).unique (.top hparent)
    exact ⟨[], by rw [habove, List.nil_append]⟩
  | @up widget parent above hparent tail ih =>
    rcases List.mem_cons.mp hmem with rfl | hmem
    · have habove := (climbs_ancestors hsound outer).unique (.up hparent tail)
      exact ⟨[], by rw [habove, List.nil_append]⟩
    · exact (ih hmem).trans (List.suffix_cons _ _)

/-- A walk from a live widget lists it, then walks from each widget inside it. -/
theorem walk_of_live (hlive : widget ∈ forest.live) :
    forest.walk widget = widget :: (forest.children widget).flatMap forest.walk := by
  have hinside : forest.Walks (forest.children widget ++ [])
      ((forest.children widget).flatMap forest.walk ++ []) := by
    refine walks_flatMap (fun inner hinner stack visited hwalks => ?_) .done
    have hpos := (hsound.issued inner (hsound.live_of_mem_inside hinner)).1
    exact walks_walkDown hsound (by omega) hwalks
  rw [List.append_nil (List.flatMap _ _)] at hinside
  exact (walks_walk hsound widget).unique (.visit hlive hinside)

/-- What a widget has if the widgets inside it have it, every widget has: the numbers grow on the
way inside, and none is larger than the number of widgets ever constructed. -/
theorem inside_induction {property : WidgetId → Prop}
    (hstep : ∀ widget, (∀ inner ∈ forest.children widget, property inner) → property widget)
    (widget : WidgetId) : property widget := by
  induction hleft : forest.constructed - widget.number using Nat.strong_induction_on
    generalizing widget with
  | _ left ih =>
    refine hstep widget fun inner hinner => ?_
    have hyounger := hsound.lt_of_mem_children hinner
    have hissued := (hsound.issued inner (hsound.live_of_mem_inside hinner)).2
    exact ih (forest.constructed - inner.number) (by omega) inner rfl

/-- A walk lists the live widgets whose chain up to a root passes its top. -/
theorem mem_walk_iff :
    widget ∈ forest.walk top ↔
      widget ∈ forest.live ∧ top ∈ widget :: forest.ancestors widget := by
  constructor
  · have hinside : ∀ outer, top ∈ outer :: forest.ancestors outer →
        ∀ inner ∈ forest.children outer, top ∈ inner :: forest.ancestors inner := by
      intro outer houter inner hinner
      rw [hsound.ancestors_of_mem_children hinner]
      exact List.mem_cons_of_mem _ houter
    exact (walks_walk hsound top).keeps hinside (by simp) widget
  · rintro ⟨hlive, hmem⟩
    have hclimbs := climbs_ancestors hsound widget
    generalize forest.ancestors widget = above at hclimbs hmem
    induction hclimbs with
    | top hparent =>
      obtain rfl := List.mem_singleton.mp hmem
      exact hsound.top_mem_walk hlive
    | @up widget parent above hparent tail ih =>
      rcases List.mem_cons.mp hmem with rfl | hmem
      · exact hsound.top_mem_walk hlive
      · have hlink := parent?_eq_some_iff.mp hparent
        exact hsound.mem_walk_of_mem_children (ih (hsound.parent_live hlink) hmem)
          (hsound.mem_children_iff.mpr hlink)

/-- Walks from different widgets of one level have nothing in common: a chain passes each level
once. -/
theorem disjoint_walks {first second : WidgetId} (hne : first ≠ second)
    (hlevel : (forest.ancestors first).length = (forest.ancestors second).length) :
    (forest.walk first).Disjoint (forest.walk second) := by
  intro widget hfirst hsecond
  have hlonger := hsound.suffix_of_mem_ancestors (hsound.mem_walk_iff.mp hfirst).2
  have hagain := hsound.suffix_of_mem_ancestors (hsound.mem_walk_iff.mp hsecond).2
  have hlength : (first :: forest.ancestors first).length =
      (second :: forest.ancestors second).length := congrArg (· + 1) hlevel
  have hsame := (List.suffix_of_suffix_length_le hlonger hagain hlength.le).eq_of_length hlength
  exact hne (List.cons.inj hsame).1

/-- Walks in turn from widgets of one level list nothing twice if none of the walks does. -/
theorem nodup_flatMap_walk {list : List WidgetId} {level : Nat} (hnodup : list.Nodup)
    (hlevel : ∀ widget ∈ list, (forest.ancestors widget).length = level)
    (hwalks : ∀ widget ∈ list, (forest.walk widget).Nodup) : (list.flatMap forest.walk).Nodup := by
  refine List.nodup_flatMap.mpr ⟨hwalks, hnodup.imp_of_mem ?_⟩
  intro first second hfirst hsecond hne
  exact hsound.disjoint_walks hne ((hlevel first hfirst).trans (hlevel second hsecond).symm)

private theorem nodup_walk (widget : WidgetId) : (forest.walk widget).Nodup := by
  induction widget using hsound.inside_induction with
  | _ widget ih =>
    by_cases hlive : widget ∈ forest.live
    · have hlevel : ∀ inner ∈ forest.children widget,
          (forest.ancestors inner).length = (forest.ancestors widget).length + 1 := by
        intro inner hinner
        rw [hsound.ancestors_of_mem_children hinner, List.length_cons]
      rw [hsound.walk_of_live hlive, List.nodup_cons]
      refine ⟨?_, hsound.nodup_flatMap_walk (nodup_of_sorted (hsound.children_sorted widget))
        hlevel ih⟩
      intro hmem
      obtain ⟨inner, hinner, hvisited⟩ := List.mem_flatMap.mp hmem
      -- The chain of the widget would pass a widget inside it, and so be longer than itself.
      have hlonger := (hsound.suffix_of_mem_ancestors (hsound.mem_walk_iff.mp hvisited).2).length_le
      rw [List.length_cons, hlevel inner hinner, List.length_cons] at hlonger
      omega
    · rw [walk_of_not_mem hlive]
      exact List.nodup_nil

/-- The walks from the roots visit no widget twice. -/
theorem nodup_roots_walk : (forest.roots.flatMap forest.walk).Nodup := by
  have hlevel : ∀ root ∈ forest.roots, (forest.ancestors root).length = 0 := by
    intro root hroot
    rw [hsound.ancestors_of_mem_roots hroot, List.length_nil]
  exact hsound.nodup_flatMap_walk (nodup_of_sorted hsound.roots_sorted) hlevel
    fun root _ => hsound.nodup_walk root

/-- The walks from the roots visit all live widgets. -/
theorem mem_roots_walk_iff : widget ∈ forest.roots.flatMap forest.walk ↔ widget ∈ forest.live := by
  rw [List.mem_flatMap]
  constructor
  · rintro ⟨root, -, hvisited⟩
    exact hsound.live_of_mem_walk hvisited
  · intro hlive
    obtain ⟨-, root, hroot, hlast⟩ := (climbs_ancestors hsound widget).reaches_root hsound hlive
    exact ⟨root, hroot, hsound.mem_walk_iff.mpr ⟨hlive, List.mem_of_getLast? hlast⟩⟩

end Sound

end WidgetTree.Forest
