import WidgetTree.Proofs.Forest.Removal

namespace WidgetTree.Forest

/-- Some widgets were taken away, each with those inside it, as far as they were still there, and
nothing else has happened. Who was destroyed inside another that is destroyed as well makes no
difference. -/
structure Clears (tops : List WidgetId) (before after : Forest) : Prop where
  sound : after.Sound
  constructed : after.constructed = before.constructed
  live : ∀ other, other ∈ after.live ↔
    other ∈ before.live ∧ ∀ top ∈ tops, top ∉ other :: before.ancestors other
  records : ∀ other ∈ after.live, after.record? other = before.record? other
  children : ∀ other ∈ after.live, after.children other =
    (before.children other).filter (· ∉ tops)
  roots : after.roots = before.roots.filter (· ∉ tops)
  heldValues : after.heldValues = before.heldValues
  commands : after.commands = before.commands
  fired : after.fired = before.fired
  history : ∃ destroyed : List WidgetId, after.history = before.history ++ destroyed.map .destroyed

/-- A widget was constructed inside another, and is there if it is live. -/
structure PlacedIn (outer widget : WidgetId) (forest : Forest) : Prop where
  issued : widget.number ≤ forest.constructed
  parent : ∀ record, forest.record? widget = some record → record.parent = some outer

variable {forest before middle after : Forest} {outer widget other : WidgetId}

/-- Where the live widgets have kept their records, those around them are the same as before. -/
theorem ancestors_of_kept (hbefore : before.Sound) (hafter : after.Sound)
    (hrecords : ∀ other ∈ after.live, after.record? other = before.record? other)
    (hlive : widget ∈ after.live) : after.ancestors widget = before.ancestors widget := by
  have hclimbs := climbs_ancestors hafter widget
  refine hclimbs.unique ?_
  have hagain := climbs_ancestors hbefore widget
  generalize before.ancestors widget = above at hagain ⊢
  induction hagain with
  | @top widget hparent =>
    refine .top ?_
    rwa [parent?, hrecords widget hlive]
  | @up widget parent above hparent tail ih =>
    have hup : after.parent? widget = some parent := by rwa [parent?, hrecords widget hlive]
    have houter := hafter.parent_live (parent?_eq_some_iff.mp hup)
    exact .up hup (ih houter (climbs_ancestors hafter parent))

namespace PlacedIn

private theorem link? (hplaced : PlacedIn outer widget forest) (hlive : widget ∈ forest.live) :
    forest.link? widget = some (some outer) := by
  obtain ⟨record, hrecord⟩ := mem_live_iff.mp hlive
  simp [Forest.link?, hrecord, hplaced.parent record hrecord]

/-- A live widget was constructed inside the widget that its record names. -/
theorem of_link? (hsound : forest.Sound) (hlink : forest.link? widget = some (some outer)) :
    PlacedIn outer widget forest where
  issued := (hsound.issued widget (mem_live_of_link? hlink)).2
  parent record hrecord := by simpa [Forest.link?, hrecord] using hlink

/-- Whatever is asked of the forest, a widget stays where it was constructed, or goes for good. -/
theorem serve (hplaced : PlacedIn outer widget forest) (hsound : forest.Sound)
    (request : Request) : PlacedIn outer widget (forest.serve request) := by
  refine ⟨hplaced.issued.trans (le_constructed_serve forest request), ?_⟩
  intro after hafter
  cases hbefore : forest.record? widget with
  | none =>
    have hdead := record?_eq_none_iff.mp hbefore
    have hgone := (hsound.not_mem_live_serve hplaced.issued hdead request).2
    exact absurd (mem_live_iff.mpr ⟨after, hafter⟩) hgone
  | some record =>
    rw [(hsound.serve_keeps request hbefore hafter).parent, hplaced.parent record hbefore]

end PlacedIn

namespace Clears

variable {tops more : List WidgetId}

private theorem mem_live (hclears : Clears tops before after) (hlive : widget ∈ after.live) :
    widget ∈ before.live := ((hclears.live widget).mp hlive).1

/-- Taking widgets away leaves the others where they were constructed. -/
theorem placedIn (hclears : Clears tops before after) (hplaced : PlacedIn outer widget before) :
    PlacedIn outer widget after where
  issued := by
    rw [hclears.constructed]
    exact hplaced.issued
  parent record hrecord := by
    have hlive := mem_live_iff.mpr ⟨record, hrecord⟩
    rw [hclears.records widget hlive] at hrecord
    exact hplaced.parent record hrecord

/-- Leaving out some and then others leaves out all of them. -/
theorem filter_append (tops more list : List WidgetId) :
    (list.filter (· ∉ tops)).filter (· ∉ more) = list.filter (· ∉ tops ++ more) := by
  rw [List.filter_filter]
  refine List.filter_congr fun widget _ => ?_
  simp [Bool.and_comm]

/-- Taking away nobody who is there changes nothing. -/
theorem of_gone (hsound : forest.Sound) (hgone : ∀ top ∈ tops, top ∉ forest.live) :
    Clears tops forest forest where
  sound := hsound
  constructed := rfl
  live other := by
    refine ⟨fun hlive => ⟨hlive, ?_⟩, And.left⟩
    intro top htop hmem
    rcases List.mem_cons.mp hmem with rfl | habove
    · exact hgone top htop hlive
    · have hclimbs := (climbs_ancestors hsound other).reaches_root hsound hlive
      exact hgone top htop (hclimbs.1 top habove)
  records _ _ := rfl
  children other _ := by
    refine (List.filter_eq_self.mpr ?_).symm
    intro inner hinner
    have hlive := hsound.live_of_mem_inside hinner
    simpa using fun htop => hgone inner htop hlive
  roots := by
    refine (List.filter_eq_self.mpr ?_).symm
    intro root hroot
    have hlive := mem_live_of_link? (hsound.mem_roots_iff.mp hroot)
    simpa using fun htop => hgone root htop hlive
  heldValues := rfl
  commands := rfl
  fired := rfl
  history := ⟨[], (List.append_nil _).symm⟩

/-- Destroying one widget takes it away, if it is there. -/
theorem of_destroy (hsound : forest.Sound) (widget : WidgetId) :
    Clears [widget] forest (forest.destroy widget).2 := by
  by_cases hlive : widget ∈ forest.live
  · obtain ⟨after, hdestroy, hfelled, hremoves⟩ := hsound.destroy_removes hlive
    have hfilter {list : List WidgetId} (hmem : widget ∉ list) :
        list.filter (· ∉ [widget]) = list := by
      simpa using filter_ne_of_not_mem hmem
    rw [hdestroy]
    refine ⟨hfelled.sound, hfelled.constructed, ?_, hremoves.records, ?_, ?_, hremoves.heldValues,
      hremoves.commands, hremoves.fired, [widget], hremoves.history⟩
    · simpa using hremoves.live
    · intro other hother
      rw [hremoves.children other hother]
      split
      · simp
      · next hparent =>
        refine (hfilter fun hmem => hparent ?_).symm
        exact parent?_eq_some_iff.mpr (hsound.mem_children_iff.mp hmem)
    · rw [hremoves.roots]
      split
      · simp
      · next hparent =>
        refine (hfilter fun hmem => hparent ?_).symm
        have hlink := hsound.mem_roots_iff.mp hmem
        cases hup : forest.parent? widget with
        | none => rfl
        | some parent =>
          rw [parent?_eq_some_iff.mp hup] at hlink
          cases hlink
  · rw [destroy_of_not_mem hlive]
    exact of_gone hsound (by simpa using hlive)

/-- What is taken away first and what is taken away then is taken away together. -/
theorem trans (hbefore : before.Sound) (hfirst : Clears tops before middle)
    (hsecond : Clears more middle after) : Clears (tops ++ more) before after where
  sound := hsecond.sound
  constructed := hsecond.constructed.trans hfirst.constructed
  live other := by
    rw [hsecond.live]
    constructor
    · rintro ⟨hmiddle, hmore⟩
      rw [ancestors_of_kept hbefore hfirst.sound hfirst.records hmiddle] at hmore
      obtain ⟨hlive, htops⟩ := (hfirst.live other).mp hmiddle
      refine ⟨hlive, fun top htop => ?_⟩
      rcases List.mem_append.mp htop with hold | hnew
      · exact htops top hold
      · exact hmore top hnew
    · rintro ⟨hlive, hnone⟩
      have hmiddle : other ∈ middle.live :=
        (hfirst.live other).mpr ⟨hlive, fun top htop => hnone top (List.mem_append_left _ htop)⟩
      rw [ancestors_of_kept hbefore hfirst.sound hfirst.records hmiddle]
      exact ⟨hmiddle, fun top htop => hnone top (List.mem_append_right _ htop)⟩
  records other hlive := by
    rw [hsecond.records other hlive, hfirst.records other (hsecond.mem_live hlive)]
  children other hlive := by
    rw [hsecond.children other hlive, hfirst.children other (hsecond.mem_live hlive),
      filter_append]
  roots := by
    rw [hsecond.roots, hfirst.roots, filter_append]
  heldValues := hsecond.heldValues.trans hfirst.heldValues
  commands := hsecond.commands.trans hfirst.commands
  fired := hsecond.fired.trans hfirst.fired
  history := by
    obtain ⟨early, hearly⟩ := hfirst.history
    obtain ⟨late, hlate⟩ := hsecond.history
    exact ⟨early ++ late, by rw [hlate, hearly, List.map_append, List.append_assoc]⟩

/-- Who is inside another that is taken away as well makes no difference. -/
theorem absorb (hbefore : before.Sound) (hclears : Clears (widget :: tops) before after)
    (houter : outer ∈ tops) (hplaced : PlacedIn outer widget before) :
    Clears tops before after := by
  have hgoes (hlive : widget ∈ before.live) : outer ∈ widget :: before.ancestors widget := by
    have hmem := hbefore.mem_children_iff.mpr (hplaced.link? hlive)
    rw [hbefore.ancestors_of_mem_children hmem]
    simp
  have hfilter (list : List WidgetId) (habsent : widget ∉ list) :
      list.filter (· ∉ widget :: tops) = list.filter (· ∉ tops) := by
    refine List.filter_congr fun inner hinner => ?_
    have hapart : inner ≠ widget := by
      rintro rfl
      exact habsent hinner
    simp [hapart]
  have hlive : ∀ other, other ∈ after.live ↔
      other ∈ before.live ∧ ∀ top ∈ tops, top ∉ other :: before.ancestors other := by
    intro other
    rw [hclears.live]
    refine ⟨fun ⟨hlive, hnone⟩ => ⟨hlive, fun top htop => hnone top (List.mem_cons_of_mem _ htop)⟩,
      fun ⟨hlive, hnone⟩ => ⟨hlive, ?_⟩⟩
    intro top htop hmem
    rcases List.mem_cons.mp htop with rfl | hother
    · have htopLive : top ∈ before.live := by
        rcases List.mem_cons.mp hmem with rfl | habove
        · exact hlive
        · exact ((climbs_ancestors hbefore other).reaches_root hbefore hlive).1 top habove
      have hsuffix := hbefore.suffix_of_mem_ancestors hmem
      exact hnone outer houter (hsuffix.subset (hgoes htopLive))
    · exact hnone top hother hmem
  refine ⟨hclears.sound, hclears.constructed, hlive, hclears.records, ?_, ?_, hclears.heldValues,
    hclears.commands, hclears.fired, hclears.history⟩
  · intro other hother
    rw [hclears.children other hother]
    apply hfilter
    intro hmem
    have hlink := hbefore.mem_children_iff.mp hmem
    rw [hplaced.link? (hbefore.live_of_mem_inside hmem)] at hlink
    obtain rfl : outer = other := by simpa using hlink
    exact ((hlive outer).mp hother).2 outer houter List.mem_cons_self
  · rw [hclears.roots]
    apply hfilter
    intro hmem
    have hlink := hbefore.mem_roots_iff.mp hmem
    rw [hplaced.link? (mem_live_of_link? hlink)] at hlink
    cases hlink

/-- The roots stay if all who are taken away were constructed inside others. -/
theorem roots_eq (hbefore : before.Sound) (hclears : Clears tops before after)
    (hplaced : ∀ top ∈ tops, ∃ outer, PlacedIn outer top before) : after.roots = before.roots := by
  rw [hclears.roots]
  refine List.filter_eq_self.mpr ?_
  intro root hroot
  have hlink := hbefore.mem_roots_iff.mp hroot
  have hother : root ∉ tops := by
    intro htop
    obtain ⟨outer, hinside⟩ := hplaced root htop
    rw [hinside.link? (mem_live_of_link? hlink)] at hlink
    cases hlink
  simpa using hother

end Clears

end WidgetTree.Forest
