import WidgetTree.Proofs.Build.Run
import WidgetTree.Proofs.Forest.Consistent

namespace WidgetTree

/-- Where a node stands: its seat, the widget around it and the widgets of its children. -/
structure Place where
  spec : NodeSpec
  seat : Seat
  parent : Option WidgetId
  inside : List WidgetId

namespace Place

/-- The widget of the node. -/
def widget (place : Place) : WidgetId := place.seat.widget

/-- The record of a widget is what its node asks for. -/
structure Shows (config : Config) (place : Place) (record : Record) : Prop where
  widgetType : place.spec.typeIn config = some record.widgetType
  parent : record.parent = place.parent
  constructorArgs : record.constructorArgs = place.spec.constructorArgs
  attachment : record.attachment = place.spec.attachmentIn config
  attributes : record.attributes = Table.ofPairs place.spec.attributes

/-- What calls make of a record is not what its node asks for. -/
theorem shows_uncalled {config : Config} {place : Place} {record : Record} :
    place.Shows config record.uncalled ↔ place.Shows config record :=
  ⟨fun hshows => ⟨hshows.1, hshows.2, hshows.3, hshows.4, hshows.5⟩,
    fun hshows => ⟨hshows.1, hshows.2, hshows.3, hshows.4, hshows.5⟩⟩

end Place

namespace NodeTree

/-- The widgets of several trees that are built one after the other. -/
def tops (seat : Seat) : List NodeTree → List WidgetId
  | [] => []
  | tree :: rest => seat.widget :: tops (seat.skip tree.count) rest

mutual

/-- The places of the nodes of a tree, in pre-order. -/
def places (seat : Seat) (parent : Option WidgetId) : NodeTree → List Place
  | node spec children =>
    ⟨spec, seat, parent, tops (seat.skip 1) children⟩ ::
      placesAll (seat.skip 1) (some seat.widget) children

/-- The places of the nodes of several trees that are built one after the other. -/
def placesAll (seat : Seat) (parent : Option WidgetId) : List NodeTree → List Place
  | [] => []
  | tree :: rest => places seat parent tree ++ placesAll (seat.skip tree.count) parent rest

end

mutual

/-- A tree has as many places as nodes. -/
theorem length_places (seat : Seat) (parent : Option WidgetId) :
    ∀ tree : NodeTree, (tree.places seat parent).length = tree.count
  | node spec children => by
    rw [places, List.length_cons, length_placesAll, count]

private theorem length_placesAll (seat : Seat) (parent : Option WidgetId) :
    ∀ trees : List NodeTree, (placesAll seat parent trees).length = countAll trees
  | [] => rfl
  | tree :: rest => by
    rw [placesAll, List.length_append, length_places, length_placesAll, countAll]

end

end NodeTree

namespace Forest

/-- A forest has grown by the nodes of these places, the topmost of which stand inside a parent, or
at the top without one. -/
structure Grown (config : Config) (parent : Option WidgetId) (places : List Place)
    (tops : List WidgetId) (before after : Forest) : Prop where
  sound : after.Sound
  live : after.live.Perm (before.live ++ places.map Place.widget)
  records : ∀ widget ∈ before.live, after.record? widget = before.record? widget
  children : ∀ widget ∈ before.live, after.children widget =
    before.children widget ++ if parent = some widget then tops else []
  roots : after.roots = before.roots ++ if parent = none then tops else []
  shown : ∀ place ∈ places,
    (∃ record, after.record? place.widget = some record ∧ place.Shows config record) ∧
      after.children place.widget = place.inside

namespace Grown

variable {config : Config} {parent : Option WidgetId} {places more : List Place}
variable {tops others : List WidgetId} {before middle after : Forest}

/-- A forest has grown by nothing from itself. -/
theorem refl (config : Config) (parent : Option WidgetId) (hsound : before.Sound) :
    Grown config parent [] [] before before where
  sound := hsound
  live := by simp
  records _ _ := rfl
  children _ _ := by simp
  roots := by simp
  shown := by simp

/-- The live widgets of a forest that has grown are those from before and those of the places. -/
theorem mem_live_iff (hgrown : Grown config parent places tops before after) {widget : WidgetId} :
    widget ∈ after.live ↔ widget ∈ before.live ∨ widget ∈ places.map Place.widget := by
  rw [hgrown.live.mem_iff, List.mem_append]

/-- The widgets of the places are new. -/
theorem not_mem_of_place (hgrown : Grown config parent places tops before after) {place : Place}
    (hplace : place ∈ places) : place.widget ∉ before.live := by
  have hnodup := hgrown.live.nodup_iff.mp hgrown.sound.live_nodup
  obtain ⟨-, -, hdisjoint⟩ := List.nodup_append.mp hnodup
  intro hlive
  exact hdisjoint _ hlive _ (List.mem_map_of_mem hplace) rfl

/-- The widgets of the places are live. -/
theorem mem_live_of_place (hgrown : Grown config parent places tops before after) {place : Place}
    (hplace : place ∈ places) : place.widget ∈ after.live :=
  hgrown.mem_live_iff.mpr (.inr (List.mem_map_of_mem hplace))

/-- Planting a widget that is then worked on, until it shows what its node asks for, is growing by
the node. -/
theorem plant {place : Place} {widgetType : String} {args : Fields Value} (hsound : before.Sound)
    (hparent : ∀ outer ∈ parent, outer ∈ before.live) (hwidget : place.widget = before.next)
    (hinside : place.inside = [])
    (htouches : Touches before.next (before.plant widgetType parent args) after)
    (hshown : ∃ record, after.record? before.next = some record ∧ place.Shows config record) :
    Grown config parent [place] [before.next] before after where
  sound := htouches.sound (hsound.plant widgetType parent args hparent)
  live := by
    rw [List.map_singleton, hwidget, htouches.live]
    exact live_plant widgetType parent args hsound
  records widget hlive := by
    have hne : widget ≠ before.next := by
      rintro rfl
      exact hsound.next_not_live hlive
    rw [htouches.others widget hne, record?_plant widgetType parent args hsound, if_neg hne]
  children widget _ := by
    rw [htouches.children, children_plant widgetType parent args hsound]
  roots := by
    rw [htouches.roots, roots_plant widgetType parent args]
  shown other hother := by
    obtain rfl := List.mem_singleton.mp hother
    have hself : parent ≠ some before.next := by
      intro heq
      exact hsound.next_not_live (hparent _ heq)
    rw [hwidget, hinside]
    refine ⟨hshown, ?_⟩
    rw [htouches.children, children_plant widgetType parent args hsound, if_neg hself,
      List.append_nil]
    exact hsound.children_next

/-- Trees that grow one after the other inside one parent have grown together. -/
theorem append (hfirst : Grown config parent places tops before middle)
    (hsecond : Grown config parent more others middle after)
    (hparent : ∀ outer ∈ parent, outer ∈ before.live) :
    Grown config parent (places ++ more) (tops ++ others) before after where
  sound := hsecond.sound
  live := by
    rw [List.map_append, ← List.append_assoc]
    exact hsecond.live.trans (hfirst.live.append_right _)
  records widget hlive := by
    rw [hsecond.records widget (hfirst.mem_live_iff.mpr (.inl hlive)), hfirst.records widget hlive]
  children widget hlive := by
    rw [hsecond.children widget (hfirst.mem_live_iff.mpr (.inl hlive)),
      hfirst.children widget hlive, List.append_assoc]
    split <;> simp
  roots := by
    rw [hsecond.roots, hfirst.roots, List.append_assoc]
    split <;> simp
  shown place hplace := by
    rcases List.mem_append.mp hplace with hearly | hlate
    · have hlive := hfirst.mem_live_of_place hearly
      have hnew := hfirst.not_mem_of_place hearly
      have helse : parent ≠ some place.widget := fun heq => hnew (hparent _ heq)
      obtain ⟨⟨record, hrecord, hshows⟩, hinside⟩ := hfirst.shown place hearly
      refine ⟨⟨record, ?_, hshows⟩, ?_⟩
      · rw [hsecond.records _ hlive, hrecord]
      · rw [hsecond.children _ hlive, hinside, if_neg helse, List.append_nil]
    · exact hsecond.shown place hlate

/-- A node whose widget has grown, inside which trees have grown, and whose widget alone was worked
on afterwards, has grown with those trees inside it. -/
theorem enclose {spec : NodeSpec} {seat : Seat} {opened : Forest}
    (hopened : Grown config parent [⟨spec, seat, parent, []⟩] [seat.widget] before opened)
    (hinner : Grown config (some seat.widget) places tops opened middle)
    (htouches : Touches seat.widget middle after)
    (huncalled : (after.record? seat.widget).map Record.uncalled =
      (middle.record? seat.widget).map Record.uncalled) :
    Grown config parent (⟨spec, seat, parent, tops⟩ :: places) [seat.widget] before after := by
  have hown : seat.widget ∈ opened.live := hopened.mem_live_of_place List.mem_cons_self
  have hnew : seat.widget ∉ before.live := hopened.not_mem_of_place List.mem_cons_self
  have hother (widget : WidgetId) (hlive : widget ∈ before.live) : widget ≠ seat.widget := by
    rintro rfl
    exact hnew hlive
  have hopenedLive (widget : WidgetId) (hlive : widget ∈ before.live) : widget ∈ opened.live :=
    hopened.mem_live_iff.mpr (.inl hlive)
  refine
    { sound := htouches.sound hinner.sound
      live := ?_
      records := ?_
      children := ?_
      roots := ?_
      shown := ?_ }
  · rw [htouches.live]
    refine hinner.live.trans ((hopened.live.append_right _).trans ?_)
    simp [Place.widget]
  · intro widget hlive
    rw [htouches.others widget (hother widget hlive),
      hinner.records widget (hopenedLive widget hlive), hopened.records widget hlive]
  · intro widget hlive
    have hne : some seat.widget ≠ some widget := by simpa using (hother widget hlive).symm
    rw [htouches.children, hinner.children widget (hopenedLive widget hlive), if_neg hne,
      List.append_nil, hopened.children widget hlive]
  · rw [htouches.roots, hinner.roots, hopened.roots]
    simp
  · intro place hplace
    rw [htouches.children]
    -- The node itself kept its record while the trees grew; they grew apart from its record.
    rcases List.mem_cons.mp hplace with rfl | hdeep
    · obtain ⟨⟨record, hrecord, hshows⟩, hbare⟩ := hopened.shown _ List.mem_cons_self
      change opened.record? seat.widget = some record at hrecord
      change opened.children seat.widget = [] at hbare
      rw [hinner.records _ hown, hrecord] at huncalled
      obtain ⟨later, hlater, hsame⟩ := Option.map_eq_some_iff.mp huncalled
      have hshown := Place.shows_uncalled.mpr hshows
      rw [← hsame, Place.shows_uncalled] at hshown
      refine ⟨⟨later, hlater, ⟨hshown.1, hshown.2, hshown.3, hshown.4, hshown.5⟩⟩, ?_⟩
      change middle.children seat.widget = tops
      rw [hinner.children _ hown, if_pos rfl, hbare, List.nil_append]
    · have hne : place.widget ≠ seat.widget := by
        intro heq
        exact hinner.not_mem_of_place hdeep (heq ▸ hown)
      rw [htouches.others _ hne]
      exact hinner.shown place hdeep

end Grown

end Forest

end WidgetTree
