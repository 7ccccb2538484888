import Mathlib.Data.List.Induction
import WidgetTree.Proofs.Forest.Clearing
import WidgetTree.Proofs.Register.Log

namespace WidgetTree.Forest

/-- The tabs of a widget; none if it is not live. -/
def tabsOf (forest : Forest) (book : WidgetId) : List Tab :=
  ((forest.record? book).map Record.tabs).getD []

variable {forest after : Forest} {book widget : WidgetId} {tab : Tab}

@[simp] theorem tabsOf_empty (book : WidgetId) : empty.tabsOf book = [] := by
  simp [tabsOf, record?, widgets, empty, Table.get?]

private theorem mem_live_of_mem_tabsOf (htab : tab ∈ forest.tabsOf book) : book ∈ forest.live := by
  rw [mem_live_iff]
  cases hrecord : forest.record? book with
  | none => simp [tabsOf, hrecord] at htab
  | some record => exact ⟨record, rfl⟩

private theorem mem_tabsOf_of_record? (hrecord : after.record? book = forest.record? book)
    (htab : tab ∈ after.tabsOf book) : tab ∈ forest.tabsOf book := by
  rwa [tabsOf, hrecord] at htab

/-- Work on one widget brings no tabs but those that it adds. -/
theorem Logs.mem_tabsOf {made : List Call} {added : List Tab}
    (hlogs : Logs widget made added forest after) (htab : tab ∈ after.tabsOf book) :
    tab ∈ forest.tabsOf book ∨ tab ∈ added := by
  by_cases hbook : book = widget
  · subst hbook
    have hlive := hlogs.touches.live ▸ mem_live_of_mem_tabsOf htab
    obtain ⟨record, hrecord⟩ := mem_live_iff.mp hlive
    obtain ⟨later, hlater, -, -, htabs⟩ := hlogs.record record hrecord
    simpa [tabsOf, hrecord, hlater, htabs] using htab
  · exact .inl (mem_tabsOf_of_record? (hlogs.touches.others book hbook) htab)

/-- A request brings no tab but to a page that is live. -/
theorem Sound.mem_tabsOf_serve (hsound : forest.Sound) (request : Request)
    (htab : tab ∈ (forest.serve request).tabsOf book) :
    tab ∈ forest.tabsOf book ∨ tab.page ∈ (forest.serve request).live := by
  cases request with
  | construct widgetType parent args =>
    rcases construct_cases widgetType parent args forest with
      ⟨error, hrefused⟩ | ⟨-, -, hplanted⟩
    · rw [Forest.serve, hrefused] at htab
      exact .inl htab
    · rw [Forest.serve, hplanted] at htab
      have hrecord := record?_plant widgetType parent args hsound book
      by_cases hbook : book = forest.next
      · rw [if_pos hbook] at hrecord
        simp [tabsOf, hrecord, newRecord] at htab
      · rw [if_neg hbook] at hrecord
        exact .inl (mem_tabsOf_of_record? hrecord htab)
  | attach widget strategy args =>
    exact .inl (by simpa using (attach_logs widget strategy args forest).mem_tabsOf htab)
  | setAttribute widget name value =>
    exact .inl (by simpa using (setAttribute_logs widget name value forest).mem_tabsOf htab)
  | invoke widget call =>
    rcases invoke_pages widget call forest with ⟨error, hrefused⟩ | ⟨added, hlogs, hadded⟩
    · rw [Forest.serve, hrefused] at htab
      exact .inl htab
    · refine (hlogs.mem_tabsOf htab).imp id fun hnew => ?_
      rw [Forest.serve, hlogs.touches.live]
      exact (hadded tab hnew).1
  | destroy widget =>
    by_cases hlive : widget ∈ forest.live
    · obtain ⟨felled, hdestroy, hfelled⟩ := hsound.destroy_felled hlive
      rw [Forest.serve, hdestroy] at htab
      have hbook := mem_live_of_mem_tabsOf htab
      exact .inl (mem_tabsOf_of_record? (hfelled.record?_of_mem_live hbook) htab)
    · rw [Forest.serve, destroy_of_not_mem hlive] at htab
      exact .inl htab
  | createVariable | registerCommand => exact .inl htab
  | readVariable | writeVariable | fireCommand =>
    simp only [Forest.serve, readVariable, writeVariable, fireCommand] at htab
    split at htab <;> exact .inl htab

/-- A destruction takes away the widgets that it is of, or of a widget around them. -/
theorem Sound.mem_live_serve_destroy_iff (hsound : forest.Sound) {gone : WidgetId} :
    widget ∈ (forest.serve (.destroy gone)).live ↔
      widget ∈ forest.live ∧ gone ∉ widget :: forest.ancestors widget := by
  have hclears : Clears [gone] forest (forest.serve (.destroy gone)) := .of_destroy hsound gone
  simpa using hclears.live widget

/-- Only a destruction takes widgets away. -/
theorem Sound.mem_live_serve (hsound : forest.Sound) {request : Request}
    (hrequest : ∀ gone, request ≠ .destroy gone) (hlive : widget ∈ forest.live) :
    widget ∈ (forest.serve request).live := by
  rcases serve_cases forest request with
    ⟨widgetType, parent, args, -, hserve⟩ | ⟨gone, hdestroy, -⟩ | ⟨worked, htouches, -⟩
  · rw [hserve]
    exact (mem_live_plant_iff widgetType parent args hsound).mpr (.inl hlive)
  · exact absurd hdestroy (hrequest gone)
  · rwa [htouches.live]

/-- The pages of tabs were constructed. -/
theorem page_issued (requests : List Request) (htab : tab ∈ (empty.serveAll requests).tabsOf book) :
    tab.page.number ≤ (empty.serveAll requests).constructed := by
  induction requests using List.reverseRecOn with
  | nil => simp [serveAll] at htab
  | append_singleton early request ih =>
    have hsound := (serveAll_keeps sound_empty rfl early).1
    rw [serveAll_append_singleton] at htab ⊢
    rcases hsound.mem_tabsOf_serve request htab with hold | hlive
    · exact (ih hold).trans (le_constructed_serve _ request)
    · exact ((hsound.serve request).issued _ hlive).2

/-- Who is live in the end has been live since it was constructed. -/
theorem mem_live_of_mem_live_append {early late : List Request}
    (hissued : widget.number ≤ (empty.serveAll early).constructed)
    (hlive : widget ∈ (empty.serveAll (early ++ late)).live) :
    widget ∈ (empty.serveAll early).live := by
  by_contra hdead
  have hsound := (serveAll_keeps sound_empty rfl early).1
  rw [serveAll_append] at hlive
  exact hsound.not_mem_live_serveAll hissued hdead late hlive

/-- The page of a tab is live all along if neither it nor a widget around it is destroyed. -/
theorem page_live_of_spared {requests early : List Request}
    (hspared : ∀ before gone, before ++ [.destroy gone] <+: requests →
      tab ∈ (empty.serveAll before).tabsOf book →
        gone ∉ tab.page :: (empty.serveAll before).ancestors tab.page)
    (hearly : early <+: requests) (htab : tab ∈ (empty.serveAll early).tabsOf book) :
    tab.page ∈ (empty.serveAll early).live := by
  induction early using List.reverseRecOn with
  | nil => simp [serveAll] at htab
  | append_singleton early request ih =>
    have hsound := (serveAll_keeps sound_empty rfl early).1
    rw [serveAll_append_singleton] at htab ⊢
    rcases hsound.mem_tabsOf_serve request htab with hold | hlive
    · have hbefore := ih ((List.prefix_append early [request]).trans hearly) hold
      cases request with
      | destroy gone =>
        exact hsound.mem_live_serve_destroy_iff.mpr ⟨hbefore, hspared early gone hearly hold⟩
      | _ => exact hsound.mem_live_serve (by simp) hbefore
    · exact hlive

/-- A notebook answers with the pages of its tabs, in order. -/
theorem invoke_tabs {record : Record} (hrecord : forest.record? book = some record)
    (htype : record.widgetType = "Notebook") (args : Arguments) :
    (forest.invoke book ⟨"tabs", args⟩).1 =
      .ok (.list (record.tabs.map fun tab => .widget tab.page)) := by
  have hclass : WidgetClass.ofName? record.widgetType =
      some (.inner "Notebook" ["add", "tabs", "select", "index"]) := by
    rw [htype]
    rfl
  rw [invoke_of_accepts hrecord (accepts_of_class hrecord hclass "tabs"), htype]
  rfl

/-- Whatever is asked of the empty forest, the page of a tab of a live notebook is live exactly if,
since the tab was added, neither the page nor a widget around it has been destroyed; and what a
notebook answers are the pages of its tabs, live or not. -/
theorem tab_page_live_iff (requests : List Request) :
    let final := empty.serveAll requests
    (∀ book, ∀ tab ∈ final.tabsOf book, (tab.page ∈ final.live ↔
      ∀ early gone, early ++ [.destroy gone] <+: requests →
        tab ∈ (empty.serveAll early).tabsOf book →
          gone ∉ tab.page :: (empty.serveAll early).ancestors tab.page)) ∧
    ∀ book record, final.record? book = some record → record.widgetType = "Notebook" → ∀ args,
      (final.invoke book ⟨"tabs", args⟩).1 =
        .ok (.list (record.tabs.map fun tab => .widget tab.page)) := by
  intro final
  refine ⟨fun book tab htab => ⟨?_, fun hspared => ?_⟩, ?_⟩
  · -- A page that is live in the end was live right after each of the destructions.
    rintro hlive early gone ⟨late, rfl⟩ hearly
    have hsound := (serveAll_keeps sound_empty rfl early).1
    have hissued : tab.page.number ≤ (empty.serveAll (early ++ [.destroy gone])).constructed := by
      rw [serveAll_append_singleton]
      exact (page_issued early hearly).trans (le_constructed_serve _ _)
    have hafter := mem_live_of_mem_live_append hissued hlive
    rw [serveAll_append_singleton] at hafter
    exact (hsound.mem_live_serve_destroy_iff.mp hafter).2
  · exact page_live_of_spared hspared List.prefix_rfl htab
  · intro book record hrecord htype args
    exact invoke_tabs hrecord htype args

/-- A notebook goes on to list the page that was destroyed. -/
theorem destroyed_page_listed :
    let forest := empty.serveAll
      [.construct "Notebook" none [], .construct "Frame" (some ⟨1⟩) [],
        .invoke ⟨1⟩ (Element.addTab "One" ⟨2⟩), .destroy ⟨2⟩]
    ⟨1⟩ ∈ forest.live ∧ forest.tabsOf ⟨1⟩ = [⟨⟨2⟩, "One"⟩] ∧ ⟨2⟩ ∉ forest.live ∧
      (forest.invoke ⟨1⟩ ⟨"tabs", .none⟩).1 = .ok (.list [.widget ⟨2⟩]) := by
  intro forest
  let before := empty.serveAll
    [.construct "Notebook" none [], .construct "Frame" (some ⟨1⟩) [],
      .invoke ⟨1⟩ (Element.addTab "One" ⟨2⟩)]
  have hsound : before.Sound := (serveAll_keeps sound_empty rfl _).1
  obtain ⟨after, hdestroy, hfelled⟩ := @Sound.destroy_felled before ⟨2⟩ hsound (by decide)
  have hafter : forest = after := congrArg Prod.snd hdestroy
  have hbook : after.record? ⟨1⟩ = before.record? ⟨1⟩ := hfelled.records ⟨1⟩ (by decide)
  rw [hafter]
  refine ⟨?_, ?_, hfelled.gone, ?_⟩
  · rw [mem_live_iff, hbook]
    exact ⟨_, rfl⟩
  · rw [tabsOf, hbook]
    rfl
  · exact invoke_tabs hbook rfl .none

end WidgetTree.Forest
