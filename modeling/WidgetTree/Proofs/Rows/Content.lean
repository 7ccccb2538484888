import WidgetTree.Proofs.Build.Work
import WidgetTree.Proofs.Forest.Sprout
import WidgetTree.Proofs.Rows.Request

namespace WidgetTree

open Forest

/-- All that building a widget inside another can do: it fails and changes nothing, or it plants the
widget, and all else is work on it. -/
theorem Core.buildIn_cases {config : Config} {spec : NodeSpec} {parent : WidgetId}
    {forest left : Forest} {result : Except BuildError Unit} {core : Core}
    (hbuild : (build config (some parent)).perform ⟨.ofSpec spec, forest⟩ =
      (result, ⟨core, left⟩)) :
    ((∃ error, result = .error error) ∧ left = forest) ∨
    ∃ widgetType, parent ∈ forest.live ∧
      Touches forest.next (forest.plant widgetType (some parent) spec.constructorArgs) left ∧
      (result = .ok () → core = .builtIn spec parent forest.next) := by
  rcases build_cases hbuild with ⟨hfailed, -, hsame⟩ | ⟨widgetType, -, hlive, hsettle⟩
  · exact .inl ⟨hfailed, hsame⟩
  · have hseated : ((ofSpec spec).seated forest.next (some parent)).widget = some forest.next := rfl
    obtain ⟨htouches, hbuilt⟩ := settle_cases (attach_touches hseated config)
      (configure_touches hseated) (.refl forest.next _) hsettle
    exact .inr ⟨widgetType, hlive parent rfl, htouches, hbuilt⟩

namespace Forest

/-- What a row of these two widgets has added to a forest, and what it has left. -/
structure Gains (parent container content : WidgetId) (before after : Forest) : Prop where
  sound : after.Sound
  first : container = before.next
  second : content.number = before.constructed + 2
  frame : ∃ record, after.record? container = some record ∧ record.widgetType = "Frame" ∧
    record.attachment = some
      ⟨"pack", [("fill", .string "x"), ("side", .string "top"), ("expand", .bool false)]⟩
  inside : after.children container = [content]
  live : after.live.Perm (before.live ++ [container, content])
  roots : after.roots = before.roots
  records : ∀ widget ∈ before.live, after.record? widget = before.record? widget
  children : ∀ widget ∈ before.live,
    after.children widget = before.children widget ++ if parent = widget then [container] else []

/-- The content of a row that was gained is live. -/
theorem Gains.content_mem_live {parent container content : WidgetId} {before after : Forest}
    (hgains : Gains parent container content before after) : content ∈ after.live :=
  hgains.live.mem_iff.mpr (by simp)

section Row

variable {forest held left : Forest} {parent : WidgetId} {spec : RowSpec}

private theorem SameWidgets.refl (forest : Forest) : SameWidgets forest forest :=
  ⟨.refl _, fun _ => rfl, fun _ => rfl, rfl⟩

/-- A forest in which a container stands alone has sprouted it. -/
theorem sprouted_housed (hsound : forest.Sound) (hparent : parent ∈ forest.live)
    (spec : RowSpec) :
    Sprouted forest (some parent) (forest.pack "Frame" parent spec.container) := by
  have hlive : ∀ outer ∈ some parent, outer ∈ forest.live := by
    rintro outer ⟨⟩
    exact hparent
  have hplanted := Sprouted.of_plant hsound hlive "Frame" spec.container.constructorArgs
  exact hplanted.touches (Nat.le_refl _) (pack_touches "Frame" spec.container parent)

/-- A container with whatever was done to content inside it is all that has come, and goes as a
whole. -/
theorem sameWidgets_of_housed (hsound : forest.Sound)
    (hsprouted : Sprouted forest (some parent) left) :
    (left.without (some forest.next)).Sound ∧
      SameWidgets (left.without (some forest.next)) forest := by
  obtain ⟨after, hdestroy, hsame, hafter, -⟩ := hsprouted.destroy_top hsound
  rw [without, hdestroy]
  exact ⟨hafter, hsame⟩

/-- Content that was planted inside a container, and then worked on, makes a row of the two. -/
theorem gains_of_content {widgetType : String} {args : Fields Value} (hsound : forest.Sound)
    (hparent : parent ∈ forest.live)
    (hheld : ∀ widget, Touches widget (forest.pack "Frame" parent spec.container) held)
    (hleft : Touches held.next (held.plant widgetType (some forest.next) args) left) :
    Gains parent forest.next held.next forest left := by
  have hheldSound := (hheld forest.next).sound (hsound.pack "Frame" spec.container hparent)
  have hnext : held.next.number = forest.constructed + 2 := by
    rw [number_next, (hheld forest.next).constructed, constructed_pack]
  have hnew : forest.next ≠ held.next := by
    intro heq
    rw [← heq, number_next] at hnext
    omega
  have hholder : forest.next ∈ held.live := by
    rw [(hheld forest.next).live]
    exact (mem_live_pack_iff "Frame" spec.container hsound).mpr (.inr rfl)
  have hplanted : (held.plant widgetType (some forest.next) args).Sound := by
    refine hheldSound.plant widgetType _ _ ?_
    rintro outer ⟨⟩
    exact hholder
  have hrecord (widget : WidgetId) (hother : widget ≠ held.next) : left.record? widget =
      (forest.pack "Frame" parent spec.container).record? widget := by
    rw [hleft.others widget hother, record?_plant _ _ _ hheldSound, if_neg hother]
    exact (hheld held.next).others widget hother
  have hchildren (widget : WidgetId) : left.children widget =
      (forest.pack "Frame" parent spec.container).children widget ++
        if some forest.next = some widget then [held.next] else [] := by
    rw [hleft.children, children_plant _ _ _ hheldSound, (hheld widget).children]
  have hlive : left.live.Perm (forest.live ++ [forest.next, held.next]) := by
    have hcontent := live_plant widgetType (some forest.next) args hheldSound
    have hcontainer := live_plant "Frame" (some parent) spec.container.constructorArgs hsound
    rw [← (pack_touches "Frame" spec.container parent).live, ← (hheld forest.next).live]
      at hcontainer
    rw [hleft.live]
    simpa using hcontent.trans (hcontainer.append_right [held.next])
  have hroots : left.roots = forest.roots := by
    rw [hleft.roots, roots_plant, if_neg nofun, List.append_nil, (hheld forest.next).roots,
      (pack_touches "Frame" spec.container parent).roots, roots_plant, if_neg nofun,
      List.append_nil]
  refine ⟨hleft.sound hplanted, rfl, hnext, ?_, ?_, hlive, hroots, ?_, ?_⟩
  · rw [hrecord _ hnew, record?_pack "Frame" spec.container hsound, if_pos rfl]
    exact ⟨_, rfl, rfl, rfl⟩
  · rw [hchildren, children_pack_next "Frame" spec.container hsound hparent, if_pos rfl,
      List.nil_append]
  · intro widget hlive
    have hold := (hsound.issued widget hlive).2
    have hother : widget ≠ held.next := by
      rintro rfl
      omega
    rw [hrecord widget hother]
    exact (kept_pack "Frame" spec.container hsound hlive).2.1
  · intro widget hlive
    have hother : some forest.next ≠ some widget := by
      rintro ⟨⟩
      exact hsound.next_not_live hlive
    rw [hchildren, if_neg hother, List.append_nil, children_pack "Frame" spec.container hsound]

end Row

end Forest

namespace Collection

variable {forest left : Forest} {strategy : RowStrategy} {config : Config} {parent : WidgetId}
variable {spec : RowSpec}

/-- All that building a row can do, if the strategy is modest: it fails and leaves the widgets that
were there, or the row has both its widgets. -/
theorem buildRow_cases (hsound : forest.Sound) (hmodest : strategy.Modest)
    {result : Except BuildError Row}
    (hrow : (buildRow strategy config parent spec).perform forest = (result, left)) :
    ((∃ error, result = .error error) ∧ left.Sound ∧ SameWidgets left forest) ∨
    ∃ container content made, (strategy.content spec).Yields made ∧
      result = .ok (rowIn parent container content spec made) ∧
      Gains parent container content forest left := by
  by_cases hparent : parent ∈ forest.live
  · let housed := forest.pack "Frame" parent spec.container
    let came := (strategy.content spec).perform housed
    have hcontainer := Act.perform_onOwn_ok
      (Core.perform_build_of_live hsound spec.plain_container packable_frame hparent config)
    obtain ⟨initial, hcame⟩ := hmodest.perform_content spec housed
    have hheld (widget : WidgetId) : Touches widget housed came.2 :=
      hcame ▸ hold_touches housed initial widget
    have hstanding : Sprouted forest (some parent) came.2 :=
      (sprouted_housed hsound hparent spec).touches (Nat.le_refl _) (hheld forest.next)
    rw [buildRow, hmodest.container, Act.perform_bind_ok hcontainer] at hrow
    dsimp only at hrow
    rw [Act.perform_bind_ok (Core.perform_requireWidget rfl _),
      Act.perform_bind_ok (Act.perform_ofScript _ _), Act.perform_bind,
      Act.perform_attempt] at hrow
    rcases hcontent : (Core.build config (some forest.next)).perform
      ⟨.ofSpec came.1.node, came.2⟩ with ⟨error | _, core, built⟩
    · have hbuilt : Sprouted forest (some parent) built := by
        rcases Core.buildIn_cases hcontent with ⟨-, rfl⟩ | ⟨widgetType, hholder, htouches, -⟩
        · exact hstanding
        · have hinside : forest.next.number ≤ came.2.next.number := by
            have hgrown := hstanding.constructed
            rw [number_next, number_next]
            omega
          exact (hstanding.plant hholder (Nat.le_refl _) widgetType _).touches hinside htouches
      have hcleared := Act.perform_onOwn_ok (Core.perform_destroy
        (.builtIn spec.container parent forest.next) built)
      rw [Act.perform_onOwn_error hcontent] at hrow
      dsimp only at hrow
      rw [Act.perform_bind, Act.perform_attempt, hcleared] at hrow
      cases hrow
      exact .inl ⟨⟨error, rfl⟩, sameWidgets_of_housed hsound hbuilt⟩
    · rw [Act.perform_onOwn_ok hcontent] at hrow
      cases hrow
      rcases Core.buildIn_cases hcontent with
        ⟨⟨error, herror⟩, -⟩ | ⟨widgetType, hholder, htouches, hcore⟩
      · cases herror
      · refine .inr ⟨forest.next, came.2.next, came.1, Script.yields_perform _ housed, ?_,
          gains_of_content hsound hparent hheld htouches⟩
        rw [hcore rfl]
        rfl
  · obtain ⟨error, hrefused⟩ :=
      @perform_buildRow_of_dead forest strategy parent hparent config spec
    rw [hrefused] at hrow
    cases hrow
    exact .inl ⟨⟨error, rfl⟩, hsound, .refl forest⟩

/-- All that adding a row can do, whatever its content, if the strategy is modest: it fails and
leaves the rows and the widgets that were there, or the row joins the others with both its
widgets. -/
theorem addRowWith_outcome {core : Core} {collection after : Collection}
    {result : Except BuildError Row} (hsound : forest.Sound)
    (hmodest : ∀ strategy, collection.resolver.resolve (kind core) = .ok strategy →
      strategy.Modest)
    (hadd : (addRowWith core spec).perform ⟨collection, forest⟩ = (result, ⟨after, left⟩)) :
    ((∃ error, result = .error error) ∧ after = collection ∧ left.Sound ∧
      SameWidgets left forest) ∨
    ∃ strategy parent container content made,
      collection.resolver.resolve (kind core) = .ok strategy ∧ core.widget = some parent ∧
      (strategy.content spec).Yields made ∧
      result = .ok (rowIn parent container content spec made) ∧
      after = { collection with
        rows := collection.rows ++ [rowIn parent container content spec made] } ∧
      Gains parent container content forest left := by
  rcases addRowWith_builds hadd with
    ⟨hfailed, hsame⟩ | ⟨strategy, parent, outcome, built, hresolve, hwidget, hrow, hend⟩
  · cases hsame
    exact .inl ⟨hfailed, rfl, hsound, .refl forest⟩
  · rcases buildRow_cases hsound (hmodest strategy hresolve) hrow with
      ⟨⟨error, rfl⟩, hbuilt, hsame⟩ | ⟨container, content, made, hyields, rfl, hgains⟩
    · rcases hend with ⟨_, -, rfl, hleft⟩ | ⟨row, hnone, -⟩
      · cases hleft
        exact .inl ⟨⟨_, rfl⟩, rfl, hbuilt, hsame⟩
      · cases hnone
    · rcases hend with ⟨_, hnone, -⟩ | ⟨row, hrow, rfl, hleft⟩
      · cases hnone
      · cases hrow
        cases hleft
        exact .inr ⟨strategy, parent, container, content, made, hresolve, hwidget, hyields, rfl,
          rfl, hgains⟩

end Collection

end WidgetTree
