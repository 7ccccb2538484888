import WidgetTree.Proofs.Forest.Sound

namespace WidgetTree.Forest

/-- The forest that has counted one more construction. -/
def counted (forest : Forest) : Forest := { forest with constructed := forest.constructed + 1 }

/-- The record of a widget that was just constructed. -/
def newRecord (widgetType : String) (parent : Option WidgetId) (args : Fields Value) : Record :=
  { widgetType, parent, constructorArgs := args }

/-- The forest with the next widget in it. -/
def plant (forest : Forest) (widgetType : String) (parent : Option WidgetId)
    (args : Fields Value) : Forest :=
  let housed := forest.counted.occupy forest.next (newRecord widgetType parent args)
  let listed := { housed with childLists := housed.childLists.insert forest.next [] }
  (listed.adopt parent forest.next).log (.constructed forest.next widgetType)

/-- All that a construction can do: it fails and changes nothing, or the type is known, the parent
live, and the next widget is planted. -/
theorem construct_cases (widgetType : String) (parent : Option WidgetId) (args : Fields Value)
    (forest : Forest) :
    (∃ error, construct widgetType parent args forest = (.error error, forest)) ∨
    ((∃ cls, WidgetClass.ofName? widgetType = some cls) ∧ (∀ outer ∈ parent, outer ∈ forest.live) ∧
      construct widgetType parent args forest =
        (.ok forest.next, forest.plant widgetType parent args)) := by
  unfold construct
  split
  · exact .inl ⟨_, rfl⟩
  · next hknown =>
    split
    · exact .inl ⟨_, rfl⟩
    · next hparent =>
      refine .inr ⟨?_, ?_, rfl⟩
      · exact Option.ne_none_iff_exists'.mp (by simpa using hknown)
      · intro outer houter
        obtain rfl := Option.mem_def.mp houter
        simpa [contains_iff] using hparent

section Occupy

variable (forest : Forest) (widget : WidgetId) (record : Record)

@[simp] theorem childLists_occupy :
    (forest.occupy widget record).childLists = forest.childLists := by
  unfold occupy
  split <;> rfl

@[simp] theorem roots_occupy : (forest.occupy widget record).roots = forest.roots := by
  unfold occupy
  split <;> rfl

@[simp] theorem constructed_occupy :
    (forest.occupy widget record).constructed = forest.constructed := by
  unfold occupy
  split <;> rfl

@[simp] theorem heldValues_occupy :
    (forest.occupy widget record).heldValues = forest.heldValues := by
  unfold occupy
  split <;> rfl

@[simp] theorem history_occupy : (forest.occupy widget record).history = forest.history := by
  unfold occupy
  split <;> rfl

variable {forest}

/-- A slot that is taken is no longer free, and none else ceases to be. -/
theorem vacant_occupy (hvacant : ∀ slot, slot ∈ forest.free ↔ forest.slots[slot]? = some none)
    (hnodup : forest.free.Nodup) (slot : Nat) :
    slot ∈ (forest.occupy widget record).free ↔
      (forest.occupy widget record).slots[slot]? = some none := by
  unfold occupy
  split
  · next taken free hfree =>
    rw [hfree] at hvacant hnodup
    have htaken := List.getElem?_eq_some_iff.mp ((hvacant taken).mp (by simp))
    obtain ⟨hlength, -⟩ := htaken
    by_cases hslot : taken = slot
    · subst hslot
      simp [hlength, (List.nodup_cons.mp hnodup).1]
    · rw [List.getElem?_set_ne hslot, ← hvacant]
      simp [Ne.symm hslot]
  · next hfree =>
    rw [hfree] at hvacant ⊢
    have hnone := hvacant slot
    rcases Nat.lt_trichotomy slot forest.slots.length with hlt | rfl | hgt
    · rw [List.getElem?_append_left hlt]
      exact hnone
    · simp
    · have hbeyond : ∀ item : Option (WidgetId × Record),
          (forest.slots ++ [item])[slot]? = none := by
        intro item
        rw [List.getElem?_eq_none_iff, List.length_append, List.length_singleton]
        omega
      simp [hbeyond]

private theorem free_nodup_occupy (hnodup : forest.free.Nodup) :
    (forest.occupy widget record).free.Nodup := by
  unfold occupy
  split
  · next hfree =>
    rw [hfree] at hnodup
    exact (List.nodup_cons.mp hnodup).2
  · next hfree => rw [hfree]; exact List.nodup_nil

end Occupy

section Plant

variable {forest : Forest} (widgetType : String) (parent : Option WidgetId) (args : Fields Value)

@[simp] theorem constructed_plant :
    (forest.plant widgetType parent args).constructed = forest.constructed + 1 := by
  cases parent <;> simp [plant, adopt, log, counted]

private theorem childLists_plant :
    (forest.plant widgetType parent args).childLists =
      match parent with
      | none => forest.childLists.insert forest.next []
      | some outer =>
        let listed := forest.childLists.insert forest.next []
        listed.insert outer ((listed.get? outer).getD [] ++ [forest.next]) := by
  cases parent <;> simp [plant, adopt, log, children, counted]

@[simp] theorem heldValues_plant :
    (forest.plant widgetType parent args).heldValues = forest.heldValues := by
  cases parent <;> simp [plant, adopt, log, counted]

/-- A plantation is journalled as the construction that it is. -/
@[simp] theorem history_plant :
    (forest.plant widgetType parent args).history =
      forest.history ++ [.constructed forest.next widgetType] := by
  cases parent <;> simp [plant, adopt, log, counted]

private theorem plant_slots (forest : Forest) (widgetType : String) (parent : Option WidgetId)
    (args : Fields Value) :
    (forest.plant widgetType parent args).slots =
      (forest.counted.occupy forest.next (newRecord widgetType parent args)).slots ∧
    (forest.plant widgetType parent args).free =
      (forest.counted.occupy forest.next (newRecord widgetType parent args)).free := by
  cases parent <;> exact ⟨rfl, rfl⟩

/-- The new widget has the record of its construction, and the others keep theirs. -/
theorem record?_plant (hsound : forest.Sound) (other : WidgetId) :
    (forest.plant widgetType parent args).record? other =
      if other = forest.next then some (newRecord widgetType parent args)
      else forest.record? other := by
  have hslots := (plant_slots forest widgetType parent args).1
  have hvacant : forest.counted.FreeIsVacant :=
    hsound.freeIsVacant
  rw [record?, widgets, hslots]
  exact record?_occupy hvacant hsound.next_not_live _ other

/-- The new widget joins the live ones. -/
theorem live_plant (hsound : forest.Sound) :
    (forest.plant widgetType parent args).live.Perm (forest.live ++ [forest.next]) := by
  have hslots := (plant_slots forest widgetType parent args).1
  have hvacant : forest.counted.FreeIsVacant :=
    hsound.freeIsVacant
  rw [live, widgets, hslots]
  exact live_occupy hvacant _ _

/-- The new widget is inside its parent, and the others stay where they are. -/
theorem link?_plant (hsound : forest.Sound) (other : WidgetId) :
    (forest.plant widgetType parent args).link? other =
      if other = forest.next then some parent else forest.link? other := by
  rw [link?, record?_plant widgetType parent args hsound]
  split <;> rfl

/-- The new widget is the last one inside its parent, and has nothing inside it. -/
theorem children_plant (hsound : forest.Sound) (other : WidgetId) :
    (forest.plant widgetType parent args).children other =
      forest.children other ++ if parent = some other then [forest.next] else [] := by
  have hlisted (other : WidgetId) : ((forest.childLists.insert forest.next []).get? other).getD [] =
      forest.children other := by
    rw [Table.get?_insert]
    split
    · next hother =>
      rw [← hother, hsound.children_next]
      rfl
    · rfl
  rw [children, childLists_plant]
  cases parent with
  | none => simpa using hlisted other
  | some outer =>
    dsimp only
    rw [Table.get?_insert]
    by_cases hother : outer = other
    · subst hother
      simp [hlisted]
    · simp [hother, hlisted]

/-- A widget without a parent is the last of the roots. -/
theorem roots_plant :
    (forest.plant widgetType parent args).roots =
      forest.roots ++ if parent = none then [forest.next] else [] := by
  cases parent <;> simp [plant, adopt, log, counted]

/-- Live are those from before and the new widget. -/
theorem mem_live_plant_iff (hsound : forest.Sound) {other : WidgetId} :
    other ∈ (forest.plant widgetType parent args).live ↔
      other ∈ forest.live ∨ other = forest.next := by
  rw [(live_plant widgetType parent args hsound).mem_iff, List.mem_append, List.mem_singleton]

/-- A list of earlier widgets in order stays in order when the next widget joins at its end. -/
private theorem sorted_append_next {list : List WidgetId} (hsound : forest.Sound)
    (hsorted : list.Pairwise (·.number < ·.number)) (hlive : ∀ member ∈ list, member ∈ forest.live)
    {more : List WidgetId} (hmore : more = [forest.next] ∨ more = []) :
    (list ++ more).Pairwise (·.number < ·.number) := by
  rcases hmore with rfl | rfl
  · rw [List.pairwise_append]
    refine ⟨hsorted, List.pairwise_singleton _ _, ?_⟩
    intro member hmember last hlast
    obtain rfl := List.mem_singleton.mp hlast
    have hissued := (hsound.issued member (hlive member hmember)).2
    show member.number < forest.constructed + 1
    omega
  · simpa using hsorted

private theorem Sound.link?_next (hsound : forest.Sound) : forest.link? forest.next = none := by
  rw [link?, record?_eq_none_iff.mpr hsound.next_not_live]
  rfl

/-- Planting a widget inside a live one, or as a root, keeps a forest sound. -/
theorem Sound.plant (hsound : forest.Sound) (hparent : ∀ outer ∈ parent, outer ∈ forest.live) :
    (forest.plant widgetType parent args).Sound where
  live_nodup := by
    rw [(live_plant widgetType parent args hsound).nodup_iff, List.nodup_append]
    refine ⟨hsound.live_nodup, List.nodup_singleton _, ?_⟩
    rintro member hmember last hlast rfl
    obtain rfl := List.mem_singleton.mp hlast
    exact hsound.next_not_live hmember
  vacant slot := by
    obtain ⟨hslots, hfree⟩ := plant_slots forest widgetType parent args
    rw [hslots, hfree]
    have hvacant : ∀ slot, slot ∈ forest.counted.free ↔ forest.counted.slots[slot]? = some none :=
      hsound.vacant
    exact vacant_occupy _ _ hvacant hsound.free_nodup slot
  free_nodup := by
    rw [(plant_slots forest widgetType parent args).2]
    exact free_nodup_occupy _ _ hsound.free_nodup
  issued other hother := by
    rw [constructed_plant]
    rcases (mem_live_plant_iff widgetType parent args hsound).mp hother with hold | rfl
    · have hissued := hsound.issued other hold
      omega
    · exact ⟨Nat.succ_pos _, Nat.le_refl _⟩
  keys_distinct := by
    have hlisted := hsound.keys_distinct.insert forest.next []
    rw [childLists_plant]
    cases parent with
    | none => exact hlisted
    | some outer => exact hlisted.insert outer _
  keys other := by
    rw [mem_live_plant_iff widgetType parent args hsound, ← hsound.keys, childLists_plant]
    cases parent with
    | none => exact Table.mem_keys_insert_iff
    | some outer =>
      have houter := (hsound.keys outer).mpr (hparent outer rfl)
      rw [Table.mem_keys_insert_iff, Table.mem_keys_insert_iff]
      constructor
      · rintro (hmem | rfl)
        · exact hmem
        · exact .inl houter
      · exact .inl
  older other outer hlink := by
    rw [link?_plant widgetType parent args hsound] at hlink
    split at hlink
    · next hother =>
      have houter := (hsound.issued outer (hparent outer (by simpa using hlink))).2
      rw [hother]
      show outer.number < forest.constructed + 1
      omega
    · exact hsound.older other outer hlink
  children other outer := by
    rw [children_plant widgetType parent args hsound, link?_plant widgetType parent args hsound,
      List.mem_append, hsound.mem_children_iff]
    by_cases hother : other = forest.next
    · have hnew := hsound.link?_next
      cases parent <;> simp [hother, hnew, eq_comm]
    · simp [hother]
  roots other := by
    rw [roots_plant, link?_plant widgetType parent args hsound, List.mem_append,
      hsound.mem_roots_iff]
    by_cases hother : other = forest.next
    · have hnew := hsound.link?_next
      cases parent <;> simp [hother, hnew]
    · simp [hother]
  children_sorted outer := by
    rw [children_plant widgetType parent args hsound]
    apply sorted_append_next hsound (hsound.children_sorted outer)
    · intro member hmember
      exact mem_live_of_link? (hsound.mem_children_iff.mp hmember)
    · split <;> simp
  roots_sorted := by
    rw [roots_plant]
    apply sorted_append_next hsound hsound.roots_sorted
    · intro member hmember
      exact mem_live_of_link? (hsound.mem_roots_iff.mp hmember)
    · split <;> simp
  waiting_live := by simp
  waiting_nodup := List.nodup_nil

end Plant

end WidgetTree.Forest
