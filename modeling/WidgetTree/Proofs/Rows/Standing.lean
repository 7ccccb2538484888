import WidgetTree.Proofs.Rows.Made
import WidgetTree.Proofs.Rows.Tick

namespace WidgetTree

/-- The row stands in the forest as it was made: a live container with the check button in it, which
shares a variable that holds 1 or 0. Its widgets are younger than those up to `oldest`. -/
structure Row.StandsAs (oldest : Nat) (forest : Forest) (row : Row) (holder button : WidgetId)
    (handle : VariableId) : Prop where
  container : row.container.widget = some holder
  content : row.content.widget = some button
  state : row.state = some handle
  younger : oldest < holder.number ∧ oldest < button.number
  live : holder ∈ forest.live
  record : ∃ record, forest.record? button = some record ∧ record.Ticks handle
  inside : forest.children holder = [button]
  bare : forest.children button = []
  held : ∃ checked, forest.valueIn? handle = some (.ofChecked checked)

def Row.Stands (oldest : Nat) (forest : Forest) (row : Row) : Prop :=
  ∃ holder button handle, row.StandsAs oldest forest holder button handle

/-- The rows have a widget or a state variable in common. -/
def Row.Shares (row other : Row) : Prop :=
  row.container.widget = other.container.widget ∨ row.content.widget = other.content.widget ∨
    row.state = other.state

/-- Whether the row is checked, so far as its variable says. -/
def Row.checkedIn (forest : Forest) (row : Row) : Bool :=
  ((row.state.bind forest.valueIn?).map Value.truthy).getD false

/-- The rows of several collections stand in one forest, and share nothing. -/
structure Standing (oldest : Nat) (rows : ElementRef → List Row) (forest : Forest) : Prop where
  sound : forest.Sound
  grown : oldest ≤ forest.constructed
  stands : ∀ ref, ∀ row ∈ rows ref, row.Stands oldest forest
  apart : ∀ {ref other : ElementRef} {place spot : Nat} {row neighbour : Row},
    (rows ref)[place]? = some row → (rows other)[spot]? = some neighbour →
    row.Shares neighbour → ref = other ∧ place = spot

namespace Row.StandsAs

variable {oldest : Nat} {forest left : Forest} {row other : Row} {holder button : WidgetId}
variable {handle : VariableId}

/-- A row that stands is checked if its variable holds something true. -/
theorem checkedIn_eq (hstands : row.StandsAs oldest forest holder button handle) :
    row.checkedIn forest = ((forest.valueIn? handle).map Value.truthy).getD false := by
  rw [checkedIn, hstands.state, Option.bind_some]

private theorem button_live (hstands : row.StandsAs oldest forest holder button handle) :
    button ∈ forest.live := by
  obtain ⟨record, hrecord, -⟩ := hstands.record
  exact Forest.mem_live_iff.mpr ⟨record, hrecord⟩

/-- No container is a check button: it has something inside it. -/
theorem holder_ne_button (hstands : row.StandsAs oldest forest holder button handle)
    {home knob : WidgetId} {other : VariableId} {neighbour : Row}
    (hother : neighbour.StandsAs oldest forest home knob other) : holder ≠ knob := by
  rintro rfl
  have hinside := hstands.inside
  rw [hother.bare] at hinside
  cases hinside

private theorem mono (hstands : row.StandsAs oldest forest holder button handle) {older : Nat}
    (hle : older ≤ oldest) : row.StandsAs older forest holder button handle :=
  { hstands with
    younger := ⟨Nat.lt_of_le_of_lt hle hstands.younger.1,
      Nat.lt_of_le_of_lt hle hstands.younger.2⟩ }

/-- A row stands in any forest in which its widgets and its variable are as before. -/
theorem kept (hstands : row.StandsAs oldest forest holder button handle)
    (hlive : holder ∈ left.live) (hrecord : left.record? button = forest.record? button)
    (hinside : left.children holder = [button]) (hbare : left.children button = [])
    (hvalue : left.valueIn? handle = forest.valueIn? handle) :
    row.StandsAs oldest left holder button handle ∧ row.checkedIn left = row.checkedIn forest := by
  refine ⟨{ hstands with
    live := hlive, inside := hinside, bare := hbare, record := ?_, held := ?_ }, ?_⟩
  · rw [hrecord]
    exact hstands.record
  · rw [hvalue]
    exact hstands.held
  · rw [hstands.checkedIn_eq, ← hvalue, checkedIn, hstands.state, Option.bind_some]

end Row.StandsAs

/-- A row that is released takes its two widgets along, and nothing else has changed but that they
are listed no more. -/
theorem Forest.withoutRow_spec {oldest : Nat} {forest : Forest} {row : Row}
    {holder button : WidgetId} {handle : VariableId} (hsound : forest.Sound)
    (hstands : row.StandsAs oldest forest holder button handle) :
    (forest.withoutRow row).Sound ∧ (forest.withoutRow row).constructed = forest.constructed ∧
      (forest.withoutRow row).heldValues = forest.heldValues ∧
      ∀ widget, widget ≠ button → widget ≠ holder →
        (forest.withoutRow row).record? widget = forest.record? widget ∧
        (forest.withoutRow row).children widget =
          ((forest.children widget).filter (· ≠ button)).filter (· ≠ holder) := by
  have hdiffer : holder ≠ button := hstands.holder_ne_button hstands
  obtain ⟨emptied, hfirst, hfelled, hrecords, hchildren⟩ :=
    hsound.destroy_leaf hstands.button_live hstands.bare
  have hlive : holder ∈ emptied.live := by
    rw [mem_live_iff, hrecords holder hdiffer, ← mem_live_iff]
    exact hstands.live
  have hbare : emptied.children holder = [] := by
    rw [hchildren holder hdiffer, hstands.inside]
    simp
  obtain ⟨left, hsecond, hgone, hrecordsLeft, hchildrenLeft⟩ :=
    hfelled.sound.destroy_leaf hlive hbare
  have hleft : forest.withoutRow row = left := by
    rw [withoutRow, hstands.content, hstands.container]
    simp only [without, hfirst, hsecond]
  rw [hleft]
  refine ⟨hgone.sound, hgone.constructed.trans hfelled.constructed,
    hgone.heldValues.trans hfelled.heldValues, ?_⟩
  intro widget hbutton hholder
  refine ⟨(hrecordsLeft widget hholder).trans (hrecords widget hbutton), ?_⟩
  rw [hchildrenLeft widget hholder, hchildren widget hbutton]

private theorem Row.Shares.symm {row other : Row} (hshares : row.Shares other) :
    other.Shares row := by
  rcases hshares with hholder | hbutton | hstate
  · exact .inl hholder.symm
  · exact .inr (.inl hbutton.symm)
  · exact .inr (.inr hstate.symm)

/-- What making a row with a check button adds to a forest, and what it leaves. -/
structure Forest.Furnished (parent : WidgetId) (row : Row) (before after : Forest) : Prop where
  sound : after.Sound
  constructed : after.constructed = before.constructed + 2
  stands : ∃ holder button handle, row.StandsAs before.constructed after holder button handle ∧
    before.valueIn? handle = none ∧
    ∀ other, after.valueIn? other =
      if other = handle then some (.ofChecked true) else before.valueIn? other
  kept : ∀ widget ∈ before.live,
    widget ∈ after.live ∧ after.record? widget = before.record? widget ∧
      (parent ≠ widget → after.children widget = before.children widget)

/-- Without arguments of its own, the check button of a row writes 1 or 0 to the row's variable. -/
theorem Record.MadeFor.ticks {spec : RowSpec} {handle : VariableId} {record : Record}
    (hmade : record.MadeFor spec handle) (hargs : spec.args = []) : record.Ticks handle := by
  have hnone (name : String) (hname : name ≠ "text") : spec.option? name = none := by
    rw [RowSpec.option?, RowSpec.content, hargs]
    simp [Table.get?, Ne.symm hname]
  refine ⟨hmade.widgetType, hmade.names, ?_, ?_, ?_⟩
  all_goals
    rw [hmade.option?, if_neg (by decide)]
    exact hnone _ (by decide)

/-- A row with a check button is made of two new widgets and a new variable, and nothing else has
changed but that the container is the last widget inside the collection's. -/
theorem Forest.makeRow_furnished {forest : Forest} (hsound : forest.Sound) {parent : WidgetId}
    (hparent : parent ∈ forest.live) {spec : RowSpec} (hargs : spec.args = []) :
    Forest.Furnished parent (forest.makeRow .checkbox "Checkbutton" parent spec).1 forest
      (forest.makeRow .checkbox "Checkbutton" parent spec).2 where
  sound := sound_makeRow hsound hparent spec
  constructed := constructed_makeRow spec
  stands := by
    obtain ⟨hheld, hholder⟩ := sound_rowHeld hsound hparent spec
    obtain ⟨record, hrecord, hmade⟩ := record?_rowButton hsound hparent spec
    have hvalues := @valueIn?_makeRow forest parent spec
    have hunheld : forest.valueIn? forest.freshVariable = none :=
      valueIn?_of_length_lt (Nat.lt_succ_self _)
    let content := RowStrategy.checkButton spec forest.freshVariable
    have hempty : (forest.rowHeld parent spec).children forest.next = [] :=
      children_pack_next "Frame" spec.container hsound hparent
    have hinside : ((forest.rowHeld parent spec).pack "Checkbutton" forest.next content).children
        forest.next = [forest.rowButton] := by
      rw [children_pack "Checkbutton" content hheld, if_pos rfl, hempty, next_rowHeld]
      rfl
    have hbare := children_pack_next "Checkbutton" content hheld hholder
    rw [next_rowHeld] at hbare
    have hlive : forest.next ∈
        ((forest.rowHeld parent spec).pack "Checkbutton" forest.next content).live :=
      (mem_live_pack_iff "Checkbutton" content hheld).mpr (.inl hholder)
    refine ⟨forest.next, forest.rowButton, forest.freshVariable, ?_, hunheld, hvalues⟩
    have hyounger : forest.constructed < forest.next.number ∧
        forest.constructed < forest.rowButton.number := by
      change forest.constructed < forest.constructed + 1 ∧
        forest.constructed < forest.constructed + 2
      omega
    have hchecked : (forest.makeRow .checkbox "Checkbutton" parent spec).2.valueIn?
        forest.freshVariable = some (.ofChecked true) := (hvalues _).trans (if_pos rfl)
    have hticks := hmade.ticks hargs
    rw [makeRow_eq] at hrecord hchecked ⊢
    exact ⟨rfl, rfl, rfl, hyounger, hlive, ⟨record, hrecord, hticks⟩, hinside, hbare, true,
      hchecked⟩
  kept _ hlive := kept_makeRow hsound hparent spec hlive

namespace Standing

variable {oldest : Nat} {rows : ElementRef → List Row} {forest left : Forest}
variable {ref : ElementRef} {place : Nat} {row : Row} {holder button : WidgetId}
variable {handle : VariableId}

/-- Whatever is done to the check button of a row that writes to its variable, the rows stand, and
only this one shows what was written. -/
theorem write (hstanding : Standing oldest rows forest) (hrow : (rows ref)[place]? = some row)
    (hstands : row.StandsAs oldest forest holder button handle)
    (htouches : Forest.Touches button forest left)
    (hrecord : ∃ record, left.record? button = some record ∧ record.Ticks handle) {checked : Bool}
    (hvalues : ∀ other, left.valueIn? other =
      if other = handle then some (.ofChecked checked) else forest.valueIn? other) :
    Standing oldest rows left ∧
      ∀ other spot neighbour, (rows other)[spot]? = some neighbour →
        neighbour.checkedIn left =
          if other = ref ∧ spot = place then checked else neighbour.checkedIn forest := by
  refine ⟨⟨htouches.sound hstanding.sound, ?_, ?_, hstanding.apart⟩, ?_⟩
  · rw [htouches.constructed]
    exact hstanding.grown
  · intro other neighbour hneighbour
    obtain ⟨home, knob, own, hown⟩ := hstanding.stands other neighbour hneighbour
    refine ⟨home, knob, own, hown.container, hown.content, hown.state, hown.younger, ?_, ?_, ?_, ?_,
      ?_⟩
    · rw [htouches.live]
      exact hown.live
    · by_cases hknob : knob = button
      · subst hknob
        obtain ⟨before, hbefore, hticks⟩ := hstands.record
        obtain ⟨again, hagain, hticksOwn⟩ := hown.record
        obtain rfl := Option.some.inj (hbefore.symm.trans hagain)
        have hshared := hticks.shared.symm.trans hticksOwn.shared
        obtain rfl : handle = own := by simpa using hshared
        exact hrecord
      · rw [htouches.others knob hknob]
        exact hown.record
    · rw [htouches.children]
      exact hown.inside
    · rw [htouches.children]
      exact hown.bare
    · rw [hvalues]
      split
      · exact ⟨checked, rfl⟩
      · exact hown.held
  · intro other spot neighbour hneighbour
    obtain ⟨home, knob, own, hown⟩ :=
      hstanding.stands other neighbour (List.mem_of_getElem? hneighbour)
    have hstate := hown.checkedIn_eq
    have hafter : neighbour.checkedIn left = ((left.valueIn? own).map Value.truthy).getD false := by
      rw [Row.checkedIn, hown.state, Option.bind_some]
    rw [hafter, hstate, hvalues]
    by_cases hsame : other = ref ∧ spot = place
    · obtain ⟨rfl, rfl⟩ := hsame
      obtain rfl := Option.some.inj (hrow.symm.trans hneighbour)
      obtain rfl := Option.some.inj (hstands.state.symm.trans hown.state)
      simp
    · have hdiffer : own ≠ handle := by
        rintro rfl
        have hshares : neighbour.Shares row := .inr (.inr (hown.state.trans hstands.state.symm))
        exact hsame (hstanding.apart hneighbour hrow hshares)
      rw [if_neg hdiffer, if_neg hsame]

/-- A row among those with a new one at the end is an old row or the new one. -/
theorem getElem?_update_append {other : ElementRef} {spot : Nat} {made neighbour : Row}
    (hget : (Function.update rows ref (rows ref ++ [made]) other)[spot]? = some neighbour) :
    (rows other)[spot]? = some neighbour ∨
      other = ref ∧ spot = (rows ref).length ∧ neighbour = made := by
  by_cases hother : other = ref
  · subst hother
    rw [Function.update_self] at hget
    rcases Nat.lt_or_ge spot (rows other).length with hlt | hge
    · rw [List.getElem?_append_left hlt] at hget
      exact .inl hget
    · rw [List.getElem?_append_right hge, List.getElem?_singleton] at hget
      split at hget
      · exact .inr ⟨rfl, by omega, (Option.some.inj hget).symm⟩
      · cases hget
  · rw [Function.update_of_ne hother] at hget
    exact .inl hget

/-- A row that is made stands beside the others, which stay as they are. It is checked. -/
theorem add (hstanding : Standing oldest rows forest) {parent : WidgetId}
    (hold : parent.number ≤ oldest) {made : Row} (hmade : Forest.Furnished parent made forest left)
    (ref : ElementRef) :
    Standing oldest (Function.update rows ref (rows ref ++ [made])) left ∧
      made.checkedIn left = true ∧
      ∀ other, ∀ row ∈ rows other, row.checkedIn left = row.checkedIn forest := by
  obtain ⟨home, knob, fresh, hnew, hunheld, hvalues⟩ := hmade.stands
  have hkept : ∀ other, ∀ row ∈ rows other, row.Stands oldest left ∧
      row.checkedIn left = row.checkedIn forest ∧ ¬row.Shares made := by
    intro other row hrow
    obtain ⟨holder, button, handle, hstands⟩ := hstanding.stands other row hrow
    obtain ⟨hliveHolder, -, hchildrenHolder⟩ := hmade.kept holder hstands.live
    obtain ⟨-, hrecordButton, hchildrenButton⟩ := hmade.kept button hstands.button_live
    have hholder : parent ≠ holder := by
      rintro rfl
      exact absurd hstands.younger.1 (by omega)
    have hbutton : parent ≠ button := by
      rintro rfl
      exact absurd hstands.younger.2 (by omega)
    obtain ⟨checked, hheld⟩ := hstands.held
    have hhandle : handle ≠ fresh := by
      rintro rfl
      rw [hunheld] at hheld
      cases hheld
    obtain ⟨hleft, hchecked⟩ := hstands.kept hliveHolder hrecordButton
      ((hchildrenHolder hholder).trans hstands.inside)
      ((hchildrenButton hbutton).trans hstands.bare) ((hvalues handle).trans (if_neg hhandle))
    refine ⟨⟨holder, button, handle, hleft⟩, hchecked, ?_⟩
    rintro (hsame | hsame | hsame)
    · rw [hstands.container, hnew.container, Option.some.injEq] at hsame
      have hissued := (hstanding.sound.issued holder hstands.live).2
      have hlater := hnew.younger.1
      rw [← hsame] at hlater
      omega
    · rw [hstands.content, hnew.content, Option.some.injEq] at hsame
      have hissued := (hstanding.sound.issued button hstands.button_live).2
      have hlater := hnew.younger.2
      rw [← hsame] at hlater
      omega
    · rw [hstands.state, hnew.state, Option.some.injEq] at hsame
      exact hhandle hsame
  refine ⟨⟨hmade.sound, ?_, ?_, ?_⟩, ?_, fun other row hrow => (hkept other row hrow).2.1⟩
  · rw [hmade.constructed]
    exact Nat.le_add_right_of_le hstanding.grown
  · intro other row hrow
    obtain ⟨spot, hspot⟩ := List.getElem?_of_mem hrow
    rcases getElem?_update_append hspot with hbefore | ⟨-, -, rfl⟩
    · exact (hkept other row (List.mem_of_getElem? hbefore)).1
    · exact ⟨home, knob, fresh, hnew.mono hstanding.grown⟩
  · intro first second place spot row neighbour hrow hneighbour hshares
    rcases getElem?_update_append hrow with hold | ⟨rfl, rfl, rfl⟩
    · rcases getElem?_update_append hneighbour with hother | ⟨-, -, rfl⟩
      · exact hstanding.apart hold hother hshares
      · exact absurd hshares (hkept first row (List.mem_of_getElem? hold)).2.2
    · rcases getElem?_update_append hneighbour with hother | ⟨rfl, rfl, -⟩
      · exact absurd hshares.symm (hkept second neighbour (List.mem_of_getElem? hother)).2.2
      · exact ⟨rfl, rfl⟩
  · rw [hnew.checkedIn_eq, hvalues, if_pos rfl]
    simp

/-- The row at the front can be released: the others stand, and stay as they are. -/
theorem remove (hstanding : Standing oldest rows forest) {rest : List Row}
    (hrows : rows ref = row :: rest) :
    Standing oldest (Function.update rows ref rest) (forest.withoutRow row) ∧
      (∀ other, ∀ neighbour ∈ Function.update rows ref rest other,
        neighbour.checkedIn (forest.withoutRow row) = neighbour.checkedIn forest) ∧
      ∀ widget ∈ forest.live, widget.number ≤ oldest → widget ∈ (forest.withoutRow row).live := by
  have hfront : (rows ref)[0]? = some row := by rw [hrows, List.getElem?_cons_zero]
  obtain ⟨holder, button, handle, hstands⟩ :=
    hstanding.stands ref row (List.mem_of_getElem? hfront)
  obtain ⟨hsound, hconstructed, hheldValues, hleft⟩ :=
    Forest.withoutRow_spec hstanding.sound hstands
  have hplace (other : ElementRef) {spot : Nat} {neighbour : Row}
      (hget : (Function.update rows ref rest other)[spot]? = some neighbour) :
      ∃ before, (rows other)[before]? = some neighbour ∧
        (other = ref → before = spot + 1) ∧ (other ≠ ref → before = spot) := by
    by_cases hother : other = ref
    · subst hother
      rw [Function.update_self] at hget
      refine ⟨spot + 1, ?_, fun _ => rfl, fun hne => absurd rfl hne⟩
      rw [hrows, List.getElem?_cons_succ]
      exact hget
    · rw [Function.update_of_ne hother] at hget
      exact ⟨spot, hget, fun heq => absurd heq hother, fun _ => rfl⟩
  have hkept (other : ElementRef) (neighbour : Row)
      (hmem : neighbour ∈ Function.update rows ref rest other) :
      neighbour.Stands oldest (forest.withoutRow row) ∧
        neighbour.checkedIn (forest.withoutRow row) = neighbour.checkedIn forest := by
    obtain ⟨spot, hspot⟩ := List.getElem?_of_mem hmem
    obtain ⟨before, hbefore, hsame, -⟩ := hplace other hspot
    obtain ⟨home, knob, own, hown⟩ :=
      hstanding.stands other neighbour (List.mem_of_getElem? hbefore)
    have hapart : ¬neighbour.Shares row := by
      intro hshares
      obtain ⟨hother, hzero⟩ := hstanding.apart hbefore hfront hshares
      have hafter := hsame hother
      omega
    have hhome : home ≠ holder := by
      rintro rfl
      exact hapart (.inl (hown.container.trans hstands.container.symm))
    have hknob : knob ≠ button := by
      rintro rfl
      exact hapart (.inr (.inl (hown.content.trans hstands.content.symm)))
    obtain ⟨hrecordHome, hchildrenHome⟩ := hleft home (hown.holder_ne_button hstands) hhome
    obtain ⟨hrecordKnob, hchildrenKnob⟩ := hleft knob hknob (hstands.holder_ne_button hown).symm
    have hlive : home ∈ (forest.withoutRow row).live := by
      rw [Forest.mem_live_iff, hrecordHome, ← Forest.mem_live_iff]
      exact hown.live
    have hinside : (forest.withoutRow row).children home = [knob] := by
      rw [hchildrenHome, hown.inside]
      simp [hknob, (hstands.holder_ne_button hown).symm]
    have hbare : (forest.withoutRow row).children knob = [] := by
      rw [hchildrenKnob, hown.bare]
      rfl
    have hvalue : (forest.withoutRow row).valueIn? own = forest.valueIn? own := by
      rw [Forest.valueIn?, Forest.valueIn?, hheldValues]
    obtain ⟨hafter, hchecked⟩ := hown.kept hlive hrecordKnob hinside hbare hvalue
    exact ⟨⟨home, knob, own, hafter⟩, hchecked⟩
  refine ⟨⟨hsound, ?_, fun other neighbour hmem => (hkept other neighbour hmem).1, ?_⟩,
    fun other neighbour hmem => (hkept other neighbour hmem).2, ?_⟩
  · rw [hconstructed]
    exact hstanding.grown
  · intro first second place spot row neighbour hrow hneighbour hshares
    obtain ⟨place', hplace', hsame, hother⟩ := hplace first hrow
    obtain ⟨spot', hspot', hsame', hother'⟩ := hplace second hneighbour
    obtain ⟨rfl, rfl⟩ := hstanding.apart hplace' hspot' hshares
    refine ⟨rfl, ?_⟩
    by_cases hfirst : first = ref
    · have hplaces := hsame hfirst
      have hspots := hsame' hfirst
      omega
    · rw [← hother hfirst, ← hother' hfirst]
  · intro widget hlive hold
    have hbutton : widget ≠ button := by
      rintro rfl
      exact absurd hstands.younger.2 (by omega)
    have hholder : widget ≠ holder := by
      rintro rfl
      exact absurd hstands.younger.1 (by omega)
    rw [Forest.mem_live_iff, (hleft widget hbutton hholder).1, ← Forest.mem_live_iff]
    exact hlive

/-- All rows of one collection can be released. -/
theorem clear (hstanding : Standing oldest rows forest) {list : List Row}
    (hrows : rows ref = list) :
    Standing oldest (Function.update rows ref []) (list.foldl Forest.withoutRow forest) ∧
      (∀ other, other ≠ ref → ∀ neighbour ∈ rows other,
        neighbour.checkedIn (list.foldl Forest.withoutRow forest) = neighbour.checkedIn forest) ∧
      ∀ widget ∈ forest.live, widget.number ≤ oldest →
        widget ∈ (list.foldl Forest.withoutRow forest).live := by
  induction list generalizing rows forest with
  | nil =>
    have hsame : Function.update rows ref [] = rows := by rw [← hrows, Function.update_eq_self]
    rw [hsame]
    exact ⟨hstanding, fun _ _ _ _ => rfl, fun _ hlive _ => hlive⟩
  | cons row rest ih =>
    obtain ⟨hnext, hchecked, hlive⟩ := hstanding.remove hrows
    obtain ⟨hlast, hcheckedLast, hliveLast⟩ := ih hnext (Function.update_self ..)
    rw [Function.update_idem] at hlast
    refine ⟨hlast, ?_, fun widget hwidget hold => hliveLast widget (hlive widget hwidget hold) hold⟩
    intro other hother neighbour hmem
    have hsame : neighbour ∈ Function.update rows ref rest other := by
      rw [Function.update_of_ne hother]
      exact hmem
    exact (hcheckedLast other hother neighbour hsame).trans (hchecked other neighbour hsame)

end Standing

end WidgetTree
