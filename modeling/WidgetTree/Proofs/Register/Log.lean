import WidgetTree.Element.Basic
import WidgetTree.Proofs.Forest.Touch
import WidgetTree.Proofs.Mirror.Record

namespace WidgetTree

/-- The page that a call names first, if it names a widget. -/
def Call.page? (call : Call) : Option WidgetId := call.args.positional.head?.bind Value.widget?

private theorem Call.HandleFree.page? {call : Call} (hfree : call.HandleFree) :
    call.page? = none := by
  obtain ⟨method, args⟩ := call
  rcases args with ⟨_ | ⟨first, rest⟩, keyword⟩
  · rfl
  · have hplain := hfree.1 first List.mem_cons_self
    cases first with
    | widget page => cases hplain
    | _ => rfl

/-- A method adds no page but the one that the call names, and no call changes the log or the
type. -/
theorem Record.kept_of_perform {record after : Record} {behaviour : Behaviour} {call : Call}
    {answer : Value} (hperform : record.perform behaviour call = .ok (answer, after)) :
    after.widgetType = record.widgetType ∧ after.calls = record.calls ∧
      ∃ added, after.tabs = record.tabs ++ added ∧
        ∀ tab ∈ added, behaviour = .addTab ∧ call.page? = some tab.page := by
  have htype := congrArg Record.widgetType (Record.uncalled_of_perform hperform)
  refine ⟨htype, Record.calls_of_perform hperform, ?_⟩
  unfold Record.perform at hperform
  dsimp only at hperform
  cases behaviour with
  | addTab =>
    dsimp only at hperform
    split at hperform
    · cases hperform
    · next page hpage =>
      cases hperform
      refine ⟨_, rfl, fun tab htab => ⟨rfl, ?_⟩⟩
      obtain rfl := List.mem_singleton.mp htab
      exact hpage
  | _ =>
    dsimp only at hperform
    refine ⟨[], ?_, by simp⟩
    (try split at hperform) <;>
      first
      | cases hperform; exact (List.append_nil _).symm
      | cases hperform

namespace Forest

/-- Work on a widget that adds these calls to its log and these pages to its pages. -/
structure Logs (widget : WidgetId) (made : List Call) (added : List Tab) (before after : Forest) :
    Prop where
  touches : Touches widget before after
  record : ∀ record, before.record? widget = some record →
    ∃ later, after.record? widget = some later ∧ later.widgetType = record.widgetType ∧
      later.calls = record.calls ++ made ∧ later.tabs = record.tabs ++ added

namespace Logs

variable {widget : WidgetId} {made more : List Call} {added others : List Tab}
variable {first second third : Forest}

theorem refl (widget : WidgetId) (forest : Forest) : Logs widget [] [] forest forest where
  touches := .refl widget forest
  record record hrecord := ⟨record, hrecord, rfl, by simp, by simp⟩

/-- Work after work logs the calls of both. -/
theorem trans (hfirst : Logs widget made added first second)
    (hsecond : Logs widget more others second third) :
    Logs widget (made ++ more) (added ++ others) first third where
  touches := hfirst.touches.trans hsecond.touches
  record record hrecord := by
    obtain ⟨middle, hmiddle, htype, hcalls, htabs⟩ := hfirst.record record hrecord
    obtain ⟨later, hlater, hlaterType, hlaterCalls, hlaterTabs⟩ := hsecond.record middle hmiddle
    refine ⟨later, hlater, hlaterType.trans htype, ?_, ?_⟩
    · rw [hlaterCalls, hcalls, List.append_assoc]
    · rw [hlaterTabs, htabs, List.append_assoc]

/-- Work that logs nothing can follow other work. -/
theorem keep (hfirst : Logs widget made added first second)
    (hsecond : Logs widget [] [] second third) : Logs widget made added first third := by
  simpa using hfirst.trans hsecond

/-- A change of what is neither the type, the log nor the pages. -/
theorem of_modify (forest : Forest) {change : Record → Record}
    (hchange : ∀ record, (change record).parent = record.parent ∧
      (change record).widgetType = record.widgetType ∧ (change record).calls = record.calls ∧
      (change record).tabs = record.tabs) (event : Event) :
    Logs widget [] [] forest ((forest.modify widget change).log event) where
  touches := touches_modify_log forest (fun record => (hchange record).1) event
  record record hrecord := by
    obtain ⟨-, htype, hcalls, htabs⟩ := hchange record
    refine ⟨change record, ?_, htype, by simpa using hcalls, by simpa using htabs⟩
    rw [record?_log, record?_modify, if_pos rfl, hrecord, Option.map_some]

/-- Work that leaves the record of its widget as it was. -/
theorem of_unchanged (htouches : Touches widget first second)
    (hrecord : second.record? widget = first.record? widget) : Logs widget [] [] first second where
  touches := htouches
  record record hget := ⟨record, hrecord.trans hget, rfl, by simp, by simp⟩

end Logs

/-- Attaching a widget logs no call. -/
theorem attach_logs (widget : WidgetId) (strategy : String) (args : Fields Value)
    (forest : Forest) : Logs widget [] [] forest (attach widget strategy args forest).2 := by
  rcases attach_cases widget strategy args forest with ⟨error, hattach⟩ | hattach
  · rw [hattach]
    exact .refl widget forest
  · rw [hattach]
    refine .of_modify forest ?_ _
    intro record
    exact ⟨rfl, rfl, rfl, rfl⟩

/-- Assigning an attribute logs no call. -/
theorem setAttribute_logs (widget : WidgetId) (name : String) (value : Value)
    (forest : Forest) : Logs widget [] [] forest (setAttribute widget name value forest).2 := by
  rcases setAttribute_cases widget name value forest with ⟨error, hassign⟩ | hassign
  · rw [hassign]
    exact .refl widget forest
  · rw [hassign]
    refine .of_modify forest ?_ _
    intro record
    exact ⟨rfl, rfl, rfl, rfl⟩

section Calls

variable {widget : WidgetId} {made : Call} {forest : Forest}

private theorem performLocally_logs {record : Record}
    (hrecord : forest.record? widget = some record) (behaviour : Behaviour) (made : Call) :
    ∃ added, Logs widget [] added forest (forest.performLocally widget record behaviour made).2 ∧
      ∀ tab ∈ added, behaviour = .addTab ∧ made.page? = some tab.page := by
  have htouches := (performLocally_serves hrecord behaviour made).touches
  unfold performLocally at htouches ⊢
  split at htouches
  · exact ⟨[], .refl widget forest, by simp⟩
  · next answer after hperform =>
    obtain ⟨htype, hcalls, added, htabs, hadded⟩ := Record.kept_of_perform hperform
    refine ⟨added, ⟨htouches, ?_⟩, hadded⟩
    intro known hknown
    obtain rfl : record = known := Option.some.inj (hrecord.symm.trans hknown)
    refine ⟨after, ?_, htype, by simpa using hcalls, htabs⟩
    rw [record?_modify, if_pos rfl, hrecord, Option.map_some]

/-- Carrying out a call adds no page but the one that the call names, and that is live. -/
theorem carryOut_logs {record : Record} (hrecord : forest.record? widget = some record)
    (behaviour : Behaviour) (made : Call) :
    ∃ added, Logs widget [] added forest (forest.carryOut widget record behaviour made).2 ∧
      ∀ tab ∈ added, tab.page ∈ forest.live ∧ made.page? = some tab.page := by
  have htouches := (carryOut_serves hrecord behaviour made).touches
  have hunchanged (hkept : (forest.carryOut widget record behaviour made).2.record? widget =
      forest.record? widget) :
      ∃ added, Logs widget [] added forest (forest.carryOut widget record behaviour made).2 ∧
        ∀ tab ∈ added, tab.page ∈ forest.live ∧ made.page? = some tab.page :=
    ⟨[], .of_unchanged htouches hkept, by simp⟩
  have hlocally (hother : behaviour ≠ .addTab) :
      ∃ added, Logs widget [] added forest
          (forest.performLocally widget record behaviour made).2 ∧
        ∀ tab ∈ added, tab.page ∈ forest.live ∧ made.page? = some tab.page := by
    obtain ⟨added, hlogs, hadded⟩ := performLocally_logs hrecord behaviour made
    exact ⟨added, hlogs, fun tab htab => absurd (hadded tab htab).1 hother⟩
  cases behaviour with
  | check on => exact hunchanged (record?_check forest record on widget)
  | checkAndFire =>
    refine hunchanged ?_
    have hcheck := record?_check forest record none widget
    rw [carryOut]
    split
    · next heq => rwa [heq] at hcheck
    · next heq =>
      rw [heq] at hcheck
      exact (record?_fireBound _ record widget).trans hcheck
  | fire => exact hunchanged (record?_fireBound forest record widget)
  | addTab =>
    rw [carryOut]
    split
    · exact ⟨[], .refl widget forest, by simp⟩
    · next hlive =>
      obtain ⟨added, hlogs, hadded⟩ := performLocally_logs hrecord .addTab made
      refine ⟨added, hlogs, fun tab htab => ?_⟩
      have hpage := (hadded tab htab).2
      rw [← Call.page?, hpage] at hlive
      exact ⟨by simpa [contains_iff] using hlive, hpage⟩
  | _ => exact hlocally nofun

private theorem noteCall_logs (widget : WidgetId) (made : Call) (forest : Forest) :
    Logs widget [made] [] forest
      ((forest.modify widget (noteCall made)).log (.invoked widget made.method)) where
  touches := by
    refine touches_modify_log forest ?_ _
    intro record
    rfl
  record record hrecord := by
    refine ⟨noteCall made record, ?_, rfl, rfl, (List.append_nil record.tabs).symm⟩
    rw [record?_log, record?_modify, if_pos rfl, hrecord, Option.map_some]

/-- A call is refused and changes nothing, or it is logged and adds no page but the one that it
names, and that is live. -/
theorem invoke_pages (widget : WidgetId) (made : Call) (forest : Forest) :
    (∃ error, invoke widget made forest = (.error error, forest)) ∨
      ∃ added, Logs widget [made] added forest (invoke widget made forest).2 ∧
        ∀ tab ∈ added, tab.page ∈ forest.live ∧ made.page? = some tab.page := by
  rcases invoke_cases widget made forest with
    ⟨-, hrefused⟩ | ⟨-, record, behaviour, hrecord, hinvoke⟩
  · exact .inl hrefused
  · have hnoted := noteCall_logs widget made forest
    have hheld : ((forest.modify widget (noteCall made)).log
        (.invoked widget made.method)).record? widget = some (noteCall made record) := by
      rw [record?_log, record?_modify, if_pos rfl, hrecord, Option.map_some]
    obtain ⟨added, hlogs, hadded⟩ := carryOut_logs hheld behaviour made
    rw [hinvoke]
    refine .inr ⟨added, hnoted.trans hlogs, fun tab htab => ?_⟩
    rw [← hnoted.touches.live]
    exact hadded tab htab

/-- A call without handles is refused and changes nothing, or it is logged and adds no page. -/
theorem invoke_logs (widget : WidgetId) (hfree : made.HandleFree) (forest : Forest) :
    (∃ error, invoke widget made forest = (.error error, forest)) ∨
      Logs widget [made] [] forest (invoke widget made forest).2 := by
  rcases invoke_pages widget made forest with hrefused | ⟨added, hlogs, hadded⟩
  · exact .inl hrefused
  · have hnone : added = [] := by
      refine List.eq_nil_iff_forall_not_mem.mpr fun tab htab => ?_
      have hpage := (hadded tab htab).2
      rw [hfree.page?] at hpage
      cases hpage
    exact .inr (hnone ▸ hlogs)

/-- A live page is added to a notebook. -/
theorem invoke_addTab {notebook page : WidgetId} {record : Record} (id : String)
    (hrecord : forest.record? notebook = some record) (htype : record.widgetType = "Notebook")
    (hpage : page ∈ forest.live) :
    (invoke notebook (Element.addTab id page) forest).1 = .ok .null ∧
      Logs notebook [Element.addTab id page] [⟨page, id⟩] forest
        (invoke notebook (Element.addTab id page) forest).2 := by
  let noted := (forest.modify notebook (noteCall (Element.addTab id page))).log
    (.invoked notebook "add")
  let paged := noteCall (Element.addTab id page) record
  have hclass : forest.classOf notebook = .ok (.inner "Notebook" ["add", "tabs", "select", "index"])
      := by
    rw [classOf, hrecord]
    dsimp only
    rw [htype]
    rfl
  have hlive : noted.contains page = true := by
    rw [contains_iff]
    exact (noteCall_logs notebook (Element.addTab id page) forest).touches.live ▸ hpage
  have hinvoke : invoke notebook (Element.addTab id page) forest =
      (.ok .null, noted.modify notebook fun _ => { paged with tabs := paged.tabs ++ [⟨page, id⟩] })
      := by
    rw [invoke, hclass, hrecord]
    show carryOut noted notebook paged .addTab (Element.addTab id page) = _
    rw [carryOut, if_neg (by simp [Element.addTab, Value.widget?, hlive])]
    rfl
  refine ⟨by rw [hinvoke], (invoke_spec notebook _ forest).1, ?_⟩
  intro known hknown
  obtain rfl : record = known := Option.some.inj (hrecord.symm.trans hknown)
  rw [hinvoke]
  refine ⟨{ paged with tabs := paged.tabs ++ [⟨page, id⟩] }, ?_, rfl, rfl, rfl⟩
  rw [record?_modify, if_pos rfl, record?_log, record?_modify, if_pos rfl, hrecord]
  rfl

end Calls

end Forest

end WidgetTree
