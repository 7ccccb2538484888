import WidgetTree.Proofs.Forest.Journal
import WidgetTree.Proofs.Forest.Preorder

namespace WidgetTree.Forest

variable {forest after : Forest} {widget other gone : WidgetId}

/-- A widget was destroyed with those inside it, and nothing else has happened. -/
structure Removes (widget : WidgetId) (before after : Forest) : Prop where
  live : ∀ other, other ∈ after.live ↔
    other ∈ before.live ∧ widget ∉ other :: before.ancestors other
  records : ∀ other ∈ after.live, after.record? other = before.record? other
  children : ∀ other ∈ after.live, after.children other =
    if before.parent? widget = some other then (before.children other).filter (· ≠ widget)
    else before.children other
  roots : after.roots =
    if before.parent? widget = none then before.roots.filter (· ≠ widget) else before.roots
  heldValues : after.heldValues = before.heldValues
  commands : after.commands = before.commands
  fired : after.fired = before.fired
  history : after.history = before.history ++ [.destroyed widget]

/-- Nothing can be done with a widget, or inside it, and every attempt leaves the forest as it is. A
widget that is gone never comes back, since no number is given twice. -/
structure Refuses (widget : WidgetId) (forest : Forest) : Prop where
  construct : ∀ widgetType args cls, WidgetClass.ofName? widgetType = some cls →
    forest.construct widgetType (some widget) args = (.error .deadWidget, forest)
  constructUnknown : ∀ widgetType args, WidgetClass.ofName? widgetType = none →
    forest.construct widgetType (some widget) args =
      (.error (.unknownWidgetType widgetType), forest)
  attach : ∀ strategy args, forest.attach widget strategy args = (.error .deadWidget, forest)
  setAttribute : ∀ name value,
    forest.setAttribute widget name value = (.error .deadWidget, forest)
  invoke : ∀ call, forest.invoke widget call = (.error .deadWidget, forest)
  destroy : forest.destroy widget = (.error .deadWidget, forest)

private theorem mem_children_of_disown (parent : Option WidgetId) {inner : WidgetId}
    (hinner : inner ∈ (forest.disown parent widget).children other) :
    inner ∈ forest.children other := by
  rw [children_disown] at hinner
  split at hinner
  · exact List.mem_of_mem_filter hinner
  · exact hinner

section Beside

variable (forest : Forest)

private theorem vacate_beside (widget : WidgetId) :
    (forest.vacate widget).commands = forest.commands ∧
      (forest.vacate widget).fired = forest.fired := by
  unfold vacate
  dsimp only
  split <;> exact ⟨rfl, rfl⟩

private theorem disown_beside (parent : Option WidgetId) (widget : WidgetId) :
    (forest.disown parent widget).commands = forest.commands ∧
      (forest.disown parent widget).fired = forest.fired := by
  cases parent with
  | none => exact ⟨rfl, rfl⟩
  | some outer =>
    rw [disown]
    cases forest.childLists.get? outer <;> exact ⟨rfl, rfl⟩

private theorem release_beside (waiting : List WidgetId) :
    (forest.release waiting).commands = forest.commands ∧
      (forest.release waiting).fired = forest.fired ∧
      (forest.release waiting).heldValues = forest.heldValues := by
  induction forest, waiting using Forest.release.induct with
  | case1 forest => simp [Forest.release]
  | case2 forest widget waiting inside hinside ih =>
    rw [release_cons hinside]
    simpa [releasedOne, unlisted, vacate_beside] using ih
  | case3 forest widget waiting hnone ih =>
    rw [release_cons_of_none hnone]
    simpa [vacate_beside] using ih

/-- A destruction leaves all that is beside the widgets. -/
theorem destroy_beside (widget : WidgetId) :
    (forest.destroy widget).2.commands = forest.commands ∧
      (forest.destroy widget).2.fired = forest.fired ∧
      (forest.destroy widget).2.heldValues = forest.heldValues := by
  unfold destroy
  split
  · exact ⟨rfl, rfl, rfl⟩
  · next record _ =>
    obtain ⟨hcommands, hfired⟩ := forest.disown_beside record.parent widget
    obtain ⟨hcommandsKept, hfiredKept, hvaluesKept⟩ :=
      (forest.disown record.parent widget).release_beside [widget]
    exact ⟨hcommandsKept.trans hcommands, hfiredKept.trans hfired,
      hvaluesKept.trans (heldValues_disown record.parent)⟩

end Beside

section Destroy

variable (hsound : forest.Sound)
include hsound

/-- A destruction leaves all that is not inside the destroyed widget. -/
theorem Sound.release_disown_keepsOutside {record : Record}
    (hrecord : forest.record? widget = some record) :
    KeepsOutside (· ∈ forest.walk widget) (forest.disown record.parent widget)
      ((forest.disown record.parent widget).release [widget]) := by
  have hlink : forest.link? widget = some record.parent := by simp [link?, hrecord]
  refine release_keepsOutside (hsound.disown hlink) ?_ ?_
  · simpa using hsound.top_mem_walk (mem_live_of_link? hlink)
  · intro outer houter inner hinner
    exact hsound.mem_walk_of_mem_children houter (mem_children_of_disown _ hinner)

/-- Without the widget that it is inside, no widget is left: it would say that it is inside a widget
that is gone. -/
theorem Felled.not_mem_live_of_mem_walk (hfelled : Felled widget forest after)
    (hinside : other ∈ forest.walk widget) : other ∉ after.live := by
  have hstep : ∀ outer, outer ∉ after.live →
      ∀ inner ∈ forest.children outer, inner ∉ after.live := by
    intro outer houter inner hinner hlive
    have hlink := hsound.mem_children_iff.mp hinner
    rw [link?, ← hfelled.record?_of_mem_live hlive] at hlink
    exact houter (hfelled.sound.parent_live hlink)
  exact ((walks_walk hsound widget).keeps hstep (by simpa using hfelled.gone) other hinside).2

/-- Destroying a live widget succeeds, and removes it with all that is inside it. -/
theorem Sound.destroy_removes (hlive : widget ∈ forest.live) :
    ∃ after, forest.destroy widget = (.ok (), after) ∧ Felled widget forest after ∧
      Removes widget forest after := by
  obtain ⟨after, hdestroy, hfelled⟩ := hsound.destroy_felled hlive
  obtain ⟨record, hrecord⟩ := mem_live_iff.mp hlive
  have hparent : forest.parent? widget = record.parent := by simp [parent?, hrecord]
  have hkeeps := hsound.release_disown_keepsOutside hrecord
  have hafter := (Prod.mk.inj (hdestroy.symm.trans (destroy_of_record? hrecord))).2
  have hhistory := history_destroy hlive
  obtain ⟨hcommands, hfired, hvalues⟩ := forest.destroy_beside widget
  rw [hdestroy] at hhistory hcommands hfired hvalues
  have hout : ∀ other, other ∈ after.live → other ∉ forest.walk widget := fun other hother hin =>
    hfelled.not_mem_live_of_mem_walk hsound hin hother
  refine ⟨after, hdestroy, hfelled, ?_⟩
  exact {
    live := fun other => by
      constructor
      · intro hother
        have hbefore := hfelled.mem_live_of_mem hother
        exact ⟨hbefore, fun hmem => hout other hother (hsound.mem_walk_iff.mpr ⟨hbefore, hmem⟩)⟩
      · rintro ⟨hbefore, hnot⟩
        have hkept : after.record? other = forest.record? other := by
          rw [hafter, record?_log]
          refine (hkeeps.records other fun hin => hnot (hsound.mem_walk_iff.mp hin).2).trans ?_
          exact record?_disown _ other
        rw [mem_live_iff] at hbefore ⊢
        rwa [hkept]
    records := fun other hother => hfelled.record?_of_mem_live hother
    children := fun other hother => by
      rw [hparent, ← children_disown, ← hkeeps.children other (hout other hother), hafter]
      rfl
    roots := by
      rw [hparent, ← roots_disown, ← hkeeps.roots, hafter]
      rfl
    heldValues := hvalues
    commands := hcommands
    fired := hfired
    history := hhistory }

end Destroy

section Dead

/-- Who is not live can neither be worked on nor be constructed inside. -/
theorem refuses_of_not_mem (hdead : gone ∉ forest.live) : Refuses gone forest := by
  have hrecord := record?_eq_none_iff.mpr hdead
  have hcontains : forest.contains gone = false := by simp [contains, hrecord]
  have hclass : forest.classOf gone = .error .deadWidget := by rw [classOf, hrecord]
  exact {
    construct := fun widgetType args cls hknown => by
      rw [construct, if_neg (by simp [hknown]), if_pos (by simp [hcontains])]
    constructUnknown := fun widgetType args hunknown => by
      rw [construct, if_pos (by simp [hunknown])]
    attach := fun strategy args => by rw [attach, hclass]
    setAttribute := fun name value => by
      rw [setAttribute, if_neg (by simp [hcontains])]
    invoke := fun call => by rw [invoke, hclass]
    destroy := destroy_of_not_mem hdead }

/-- A request brings back nobody whose number was given before. -/
theorem Sound.not_mem_live_serve (hsound : forest.Sound)
    (hissued : gone.number ≤ forest.constructed) (hdead : gone ∉ forest.live)
    (request : Request) :
    gone.number ≤ (forest.serve request).constructed ∧ gone ∉ (forest.serve request).live := by
  rcases serve_cases forest request with
    ⟨widgetType, parent, args, -, hserve⟩ | ⟨widget, -, hserve⟩ | ⟨widget, htouches, -⟩
  · rw [hserve, constructed_plant, mem_live_plant_iff widgetType parent args hsound, not_or]
    refine ⟨by omega, hdead, ?_⟩
    rintro rfl
    exact Nat.not_succ_le_self _ hissued
  · rw [hserve]
    by_cases hlive : widget ∈ forest.live
    · obtain ⟨after, hdestroy, hfelled⟩ := hsound.destroy_felled hlive
      rw [hdestroy, hfelled.constructed]
      exact ⟨hissued, fun hback => hdead (hfelled.mem_live_of_mem hback)⟩
    · rw [destroy_of_not_mem hlive]
      exact ⟨hissued, hdead⟩
  · rw [htouches.constructed, htouches.live]
    exact ⟨hissued, hdead⟩

/-- However many requests are served, who is gone stays gone. -/
theorem Sound.not_mem_live_serveAll (hsound : forest.Sound)
    (hissued : gone.number ≤ forest.constructed) (hdead : gone ∉ forest.live)
    (requests : List Request) : gone ∉ (forest.serveAll requests).live := by
  induction requests generalizing forest with
  | nil => exact hdead
  | cons request rest ih =>
    obtain ⟨hstill, hgone⟩ := hsound.not_mem_live_serve hissued hdead request
    exact ih (hsound.serve request) hstill hgone

end Dead

/-- Destroying a live widget of any forest that requests lead to succeeds and removes that widget
and those inside it, nothing else; and whatever is asked afterwards, nothing can be done any more
with a widget that was removed. -/
theorem Reachable.destroy_for_good (hreachable : forest.Reachable) (hlive : widget ∈ forest.live) :
    ∃ after, forest.destroy widget = (.ok (), after) ∧ Removes widget forest after ∧
      ∀ gone ∈ forest.live, gone ∉ after.live → ∀ requests,
        Refuses gone (after.serveAll requests) := by
  have hsound := hreachable.sound
  obtain ⟨after, hdestroy, hfelled, hremoves⟩ := hsound.destroy_removes hlive
  refine ⟨after, hdestroy, hremoves, fun gone hgone hdead requests => ?_⟩
  have hissued : gone.number ≤ after.constructed :=
    hfelled.constructed ▸ (hsound.issued gone hgone).2
  exact refuses_of_not_mem (hfelled.sound.not_mem_live_serveAll hissued hdead requests)

/-- A window with a frame that holds a label, and another label. -/
def furnished : Forest := empty.serveAll
  [.construct "Tk" none [], .construct "Frame" (some ⟨1⟩) [], .construct "Label" (some ⟨2⟩) [],
    .construct "Label" (some ⟨1⟩) []]

/-- The frame goes with its label, and the label stays dead though another widget takes the slot of
the frame. -/
theorem furnished_without_frame :
    furnished.Reachable ∧ ⟨2⟩ ∈ furnished.live ∧
      ∃ after, furnished.destroy ⟨2⟩ = (.ok (), after) ∧ Removes ⟨2⟩ furnished after ∧
        ⟨3⟩ ∉ after.live ∧ ⟨4⟩ ∈ after.live ∧ after.children ⟨1⟩ = [⟨4⟩] ∧
        Refuses ⟨3⟩ (after.serveAll [.construct "Frame" none []]) := by
  have hreachable : furnished.Reachable := ⟨_, rfl⟩
  have hlive : ⟨2⟩ ∈ furnished.live := by decide
  obtain ⟨after, hdestroy, hremoves, hrefuses⟩ := hreachable.destroy_for_good hlive
  have hlabel : ⟨3⟩ ∉ after.live := by
    rw [hremoves.live]
    decide
  have hwindow : ⟨1⟩ ∈ after.live := by
    rw [hremoves.live]
    decide
  refine ⟨hreachable, hlive, after, hdestroy, hremoves, hlabel, ?_, ?_, ?_⟩
  · rw [hremoves.live]
    decide
  · rw [hremoves.children _ hwindow]
    decide
  · exact hrefuses ⟨3⟩ (by decide) hlabel _

/-- The type of a new widget is looked up before it is asked whether its parent is live. -/
theorem unknown_type_inside_destroyed :
    let destroyed := empty.serveAll [.construct "Tk" none [], .destroy ⟨1⟩]
    ⟨1⟩ ∉ destroyed.live ∧
      (destroyed.construct "Bogus" (some ⟨1⟩) []).1 = .error (.unknownWidgetType "Bogus") ∧
      (destroyed.construct "Bogus" (some ⟨1⟩) []).1 ≠ .error .deadWidget := by
  intro destroyed
  have hdead : ⟨1⟩ ∉ destroyed.live := by
    have hsound := (serveAll_keeps sound_empty rfl [.construct "Tk" none []]).1
    obtain ⟨after, hdestroy, hfelled⟩ := @Sound.destroy_felled _ ⟨1⟩ hsound (by decide)
    have hafter : destroyed = after := congrArg Prod.snd hdestroy
    exact hafter ▸ hfelled.gone
  have hunknown : (destroyed.construct "Bogus" (some ⟨1⟩) []).1 =
      .error (.unknownWidgetType "Bogus") := by
    rw [(refuses_of_not_mem hdead).constructUnknown "Bogus" [] (by decide)]
  exact ⟨hdead, hunknown, by simp [hunknown]⟩

end WidgetTree.Forest
