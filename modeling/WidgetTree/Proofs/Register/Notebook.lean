import WidgetTree.Proofs.Build.Rest
import WidgetTree.Proofs.Mirror.Build
import WidgetTree.Proofs.Register.Log

namespace WidgetTree

open Forest

/-- Of these calls in the name of a node, those that were made: all of them, or those up to one that
failed. -/
structure MadeOf (node : String) (calls made : List Call) (result : Except BuildError Unit) :
    Prop where
  prefixed : made <+: calls
  stopped : made = calls ∨
    ∃ failed ∈ calls, ∃ error, result = .error (.ofInvoke node failed.method error)

private theorem MadeOf.cons {node : String} {calls made : List Call}
    {result : Except BuildError Unit} (hmade : MadeOf node calls made result) (first : Call) :
    MadeOf node (first :: calls) (first :: made) result where
  prefixed := List.cons_prefix_cons.mpr ⟨rfl, hmade.prefixed⟩
  stopped := by
    rcases hmade.stopped with rfl | ⟨failed, hfailed, error, hresult⟩
    · exact .inl rfl
    · exact .inr ⟨failed, List.mem_cons_of_mem _ hfailed, error, hresult⟩

/-- If nothing failed, all calls were made. -/
theorem MadeOf.all {node : String} {calls made : List Call}
    (hmade : MadeOf node calls made (.ok ())) : made = calls := by
  rcases hmade.stopped with hall | ⟨failed, -, error, hresult⟩
  · exact hall
  · cases hresult

namespace Core

section Logs

variable {base forest after : Forest} {widget : WidgetId} {core : Core} {logged : List Call}
variable {added : List Tab}

/-- Calls without handles are logged up to the first that fails, and add no page. -/
theorem callAll_logs {node : String} {calls : List Call}
    (hfree : ∀ made ∈ calls, made.HandleFree) {result : Except BuildError Unit}
    (hact : (callAll node widget calls).perform forest = (result, after)) :
    ∃ made, MadeOf node calls made result ∧ Logs widget made [] forest after := by
  induction calls generalizing forest with
  | nil =>
    cases hact
    exact ⟨[], ⟨List.nil_prefix, .inl rfl⟩, .refl widget _⟩
  | cons first rest ih =>
    have hinvoke : (call node widget first).perform forest = _ :=
      Act.perform_ofOperation _ (Forest.invoke widget first) forest
    rw [callAll, Act.perform_bind, hinvoke] at hact
    rcases invoke_logs widget (hfree first List.mem_cons_self) forest with
      ⟨error, hrefused⟩ | hlogged
    · rw [hrefused] at hact
      cases hact
      exact ⟨[], ⟨List.nil_prefix, .inr ⟨first, List.mem_cons_self, _, rfl⟩⟩, .refl widget _⟩
    · rcases houtcome : Forest.invoke widget first forest with ⟨error | answer, middle⟩
      · rw [houtcome] at hact hlogged
        cases hact
        exact ⟨[first], ⟨List.prefix_append [first] rest, .inr ⟨first, List.mem_cons_self, _, rfl⟩⟩,
          hlogged⟩
      · rw [houtcome] at hact hlogged
        obtain ⟨made, hmade, hmore⟩ :=
          ih (fun other hother => hfree other (List.mem_cons_of_mem _ hother)) hact
        exact ⟨first :: made, hmade.cons first, hlogged.trans hmore⟩

variable (hwidget : core.widget = some widget)
include hwidget

private theorem attach_logs (config : Config) :
    Act.Preserves (Logs widget logged added base) (core.attach config) :=
  attach_preserves config <| forall_mem_widget hwidget fun strategy args forest hlogs =>
    hlogs.keep (Forest.attach_logs widget strategy args forest)

private theorem configure_logs (hfree : ∀ made ∈ core.spec.sequenceCalls, made.HandleFree)
    (hact : core.configure.perform forest = (.ok (), after)) :
    Logs widget core.spec.sequenceCalls [] forest after := by
  rw [configure, Act.perform_bind_eq_ok_iff] at hact
  obtain ⟨_, assigned, hassign, hsequence⟩ := hact
  rw [assignAttributes, Act.perform_bind_ok (perform_requireWidget hwidget forest)] at hassign
  have hassigned : Logs widget [] [] forest
      ((assignAll core.id widget core.spec.attributes).perform forest).2 := by
    refine assignAll_preserves core.id ?_ core.spec.attributes forest (.refl widget forest)
    intro name value middle hlogs
    exact hlogs.keep (setAttribute_logs widget name value middle)
  rw [hassign] at hassigned
  rw [applySequence] at hsequence
  rw [NodeSpec.sequenceCalls] at hfree ⊢
  cases hitems : core.spec.sequence with
  | none =>
    rw [hitems] at hsequence
    cases hsequence
    exact hassigned
  | some sequence =>
    rw [hitems] at hsequence hfree
    dsimp only at hsequence
    rw [Act.perform_bind_ok (perform_requireWidget hwidget assigned)] at hsequence
    obtain ⟨made, hmade, hlogs⟩ := callAll_logs hfree hsequence
    rw [hmade.all] at hlogs
    exact hassigned.trans hlogs

private theorem runHook_logs (hfree : ∀ made ∈ core.spec.hook, made.HandleFree)
    {result : Except BuildError Unit} (hact : core.runHook.perform forest = (result, after)) :
    ∃ made, MadeOf core.id core.spec.hook made result ∧ Logs widget made [] forest after := by
  rw [runHook] at hact
  split at hact
  · next hhook =>
    cases hact
    rw [hhook]
    exact ⟨[], ⟨List.nil_prefix, .inl rfl⟩, .refl widget _⟩
  · rw [Act.perform_bind_ok (perform_requireWidget hwidget forest)] at hact
    exact callAll_logs hfree hact

end Logs

/-- A widget that was built has the calls of its node's sequence in its log, and no page. -/
theorem record?_of_buildAs {config : Config} {target : Option WidgetId} {widgetType : String}
    {spec : NodeSpec} {forest : Forest} {after : Work Core Forest} (hsound : forest.Sound)
    (hfree : ∀ made ∈ spec.sequenceCalls, made.HandleFree)
    (hbuild : (buildAs config target widgetType).perform ⟨.ofSpec spec, forest⟩ =
      (.ok (), after)) :
    ∃ record, after.toolkit.record? forest.next = some record ∧ record.widgetType = widgetType ∧
      record.calls = spec.sequenceCalls ∧ record.tabs = [] := by
  rw [buildAs, Act.perform_bind_eq_ok_iff] at hbuild
  obtain ⟨_, built, hconstruct, hrest⟩ := hbuild
  rw [Act.perform_bind_eq_ok_iff] at hrest
  obtain ⟨_, attached, hattach, hrest⟩ := hrest
  rw [Act.perform_bind_eq_ok_iff] at hrest
  obtain ⟨_, configured, hconfigure, hmark⟩ := hrest
  obtain ⟨hwidget, hspec⟩ := construct_eq_ok hconstruct
  change built.subject.spec = spec at hspec
  have hrecord : built.toolkit.record? forest.next =
      some (newRecord widgetType target spec.constructorArgs) := by
    rw [perform_construct] at hconstruct
    rcases construct_cases widgetType target (ofSpec spec).spec.constructorArgs forest with
      ⟨error, hcase⟩ | ⟨-, -, hcase⟩
    · rw [hcase] at hconstruct
      cases hconstruct
    · rw [hcase] at hconstruct
      cases hconstruct
      exact (record?_plant _ _ _ hsound _).trans (if_pos rfl)
  obtain ⟨hattach, hkept⟩ := thenDo_eq_ok hattach
  obtain ⟨hconfigure, -⟩ := thenDo_eq_ok hconfigure
  have hattached := attach_logs hwidget config built.toolkit (.refl forest.next built.toolkit)
  rw [hattach] at hattached
  rw [hkept] at hconfigure
  rw [← hspec] at hfree ⊢
  have hlogs := hattached.trans (configure_logs hwidget hfree hconfigure)
  obtain ⟨record, hafter, htype, hcalls, htabs⟩ := hlogs.record _ hrecord
  cases hmark
  exact ⟨record, hafter, htype, hcalls, htabs⟩

end Core

/-- The page of an entry, as the notebook has it. -/
def Tab.ofEntry (entry : String × WidgetId) : Tab := ⟨entry.2, entry.1⟩

/-- The call that adds the page of an entry. -/
def Call.ofEntry (entry : String × WidgetId) : Call := Element.addTab entry.1 entry.2

/-- Live pages are all added to a notebook, in order, and its register notes all of them. -/
theorem Element.addTabs_logs {core : Core} {notebook : WidgetId}
    (hwidget : core.widget = some notebook) {found : List (String × WidgetId)} (tabs : List Tab)
    {forest : Forest} {record : Record} (hrecord : forest.record? notebook = some record)
    (htype : record.widgetType = "Notebook") (hlive : ∀ entry ∈ found, entry.2 ∈ forest.live) :
    ∃ after, (addTabs found).perform ⟨⟨core, .register (tabs.map Tab.text)⟩, forest⟩ =
        (.ok (), ⟨⟨core, .register ((tabs ++ found.map Tab.ofEntry).map Tab.text)⟩, after⟩) ∧
      Logs notebook (found.map Call.ofEntry) (found.map Tab.ofEntry) forest after := by
  induction found generalizing tabs forest record with
  | nil =>
    refine ⟨forest, ?_, .refl notebook forest⟩
    rw [List.map_nil, List.append_nil]
    rfl
  | cons entry rest ih =>
    obtain ⟨id, page⟩ := entry
    obtain ⟨hadded, hlogs⟩ := invoke_addTab id hrecord htype (hlive _ List.mem_cons_self)
    obtain ⟨later, hlater, hlaterType, -, -⟩ := hlogs.record record hrecord
    have hcall := Core.perform_invoke hwidget (addTab id page) forest
    rw [hadded] at hcall
    have hrest : ∀ entry ∈ rest, entry.2 ∈ (forest.invoke notebook (addTab id page)).2.live := by
      intro entry hentry
      rw [hlogs.touches.live]
      exact hlive entry (List.mem_cons_of_mem _ hentry)
    obtain ⟨after, hafter, hmore⟩ :=
      ih (tabs ++ [⟨page, id⟩]) hlater (hlaterType.trans htype) hrest
    refine ⟨after, ?_, hlogs.trans hmore⟩
    rw [addTabs, Act.perform_bind, perform_onCore, Core.perform_thenDo, hcall]
    show (addTabs rest).perform ⟨⟨core, .register (tabs.map Tab.text ++ [id])⟩, _⟩ = _
    rw [List.map_append, List.map_singleton] at hafter
    rw [hafter, List.map_cons, List.append_assoc]
    rfl

/-- A register looks at all its pages first; then it adds them, and then it makes the calls of the
hook. -/
theorem Element.perform_postSubtree_register (core : Core) (tabs : List String)
    (children : List NodeTree) (bound : String → Option WidgetId) (forest : Forest) :
    (postSubtree children bound).perform ⟨⟨core, .register tabs⟩, forest⟩ =
      match pages core.id bound children with
      | .error error => (.error error, ⟨⟨core, .register tabs⟩, forest⟩)
      | .ok found => (addTabs found >>= fun _ => onCore (Core.thenDo (·.runHook))).perform
          ⟨⟨core, .register tabs⟩, forest⟩ := by
  rw [postSubtree, Act.perform_bind_ok (Act.perform_subject _)]
  show Act.perform (Act.ofExcept (pages core.id bound children) >>= fun found =>
    addTabs found >>= fun _ => onCore (Core.thenDo (·.runHook))) _ = _
  rw [Act.perform_bind, Act.perform_ofExcept]
  cases pages core.id bound children <;> rfl

namespace Site

/-- What the register of a node shows on a site: the calls in the log of its notebook, and the
pages of the notebook, whose texts the register lists. -/
structure HasRegister (seat : Seat) (spec : NodeSpec) (calls : List Call) (tabs : List Tab)
    (site : Site Forest) : Prop where
  element : ∃ core, site.elements.get? seat.ref = some ⟨core, .register (tabs.map Tab.text)⟩ ∧
    core.spec = spec ∧ core.widget = some seat.widget
  record : ∃ record, site.toolkit.record? seat.widget = some record ∧
    record.widgetType = "Notebook" ∧ record.calls = calls ∧ record.tabs = tabs

variable {config : Config} {target : Option WidgetId} {spec : NodeSpec} {ref : ElementRef}
variable {site after : Site Forest} {seat : Seat} {calls : List Call} {tabs : List Tab}

/-- A register that was opened has a notebook without pages. -/
theorem hasRegister_of_openNode (hkind : Kind.of? spec = some .register)
    (htype : config.registerWidgetType = "Notebook")
    (hfree : ∀ made ∈ spec.sequenceCalls, made.HandleFree) (hsound : site.toolkit.Sound)
    (hopen : ((Plan.standard config).openNode target spec (freshElement spec)).perform site =
      (.ok ref, after)) :
    after.HasRegister site.ledger.seat spec spec.sequenceCalls [] := by
  obtain ⟨rfl, work, hbuild, helements, htoolkit⟩ := work_of_openNode hopen
  obtain ⟨hwidget, hspec, -⟩ := Element.build_eq_ok hbuild
  have hfresh : freshElement spec = ⟨.ofSpec spec, .register []⟩ := by
    rw [freshElement, hkind]
    rfl
  rw [hfresh, Element.build, Act.perform_bind_ok (Act.perform_subject _)] at hbuild
  obtain ⟨hcore, hrole⟩ := Element.onCore_eq_ok hbuild
  obtain ⟨record, hrecord, hrecordType, hcalls, htabs⟩ := Core.record?_of_buildAs hsound hfree hcore
  refine ⟨⟨work.subject.core, ?_, hspec, hwidget⟩, record, ?_, hrecordType.trans htype, hcalls,
    htabs⟩
  · rw [helements, seat_ledger, get?_introduced]
    exact congrArg (fun role => some (Element.mk work.subject.core role)) hrole
  · rw [htoolkit]
    exact hrecord

namespace HasRegister

/-- What comes behind a register leaves it. -/
theorem rests (hhas : site.HasRegister seat spec calls tabs) (hsound : site.toolkit.Sound)
    (hrests : site.Rests seat after) : after.HasRegister seat spec calls tabs := by
  obtain ⟨⟨core, hget, hcore⟩, record, hrecord, hshows⟩ := hhas
  obtain ⟨hmade, -⟩ := List.getElem?_eq_some_iff.mp hget
  obtain ⟨-, hissued⟩ := hsound.issued seat.widget (mem_live_iff.mpr ⟨record, hrecord⟩)
  refine ⟨⟨core, ?_, hcore⟩, record, ?_, hshows⟩
  · rw [hrests.elements seat.ref (Nat.le_refl _) hmade, hget]
  · rw [hrests.records seat.widget (Nat.le_refl _) hissued, hrecord]

variable {children : List NodeTree} {bound : String → Option WidgetId}
variable {finish : Except BuildError Unit} {finished : Site Forest}

/-- Finishing a register is work on its notebook. -/
theorem finish_touches (hhas : site.HasRegister seat spec calls tabs)
    (hfinish : (onElement seat.ref (Element.postSubtree children bound)).perform site =
      (finish, finished)) : Touches seat.widget site.toolkit finished.toolkit := by
  obtain ⟨⟨core, hget, -, hwidget⟩, -⟩ := hhas
  have hworks := Element.postSubtree_worksOn hwidget children bound
    ⟨⟨core, .register (tabs.map Tab.text)⟩, site.toolkit⟩ ⟨rfl, .refl seat.widget site.toolkit⟩
  rw [perform_onElement hget] at hfinish
  obtain ⟨-, rfl⟩ := Prod.mk.inj hfinish
  exact hworks.2

/-- Where a page is missing nothing is done. -/
theorem refused {error : BuildError} (hhas : site.HasRegister seat spec calls tabs)
    (hpages : Element.pages spec.id bound children = .error error)
    (hfinish : (onElement seat.ref (Element.postSubtree children bound)).perform site =
      (finish, finished)) :
    finish = .error error ∧ finished.HasRegister seat spec calls tabs := by
  obtain ⟨⟨core, hget, rfl, hwidget⟩, hrecord⟩ := hhas
  have hnothing := Element.perform_postSubtree_register core (tabs.map Tab.text) children bound
    site.toolkit
  rw [show core.id = core.spec.id from rfl, hpages] at hnothing
  rw [perform_onElement hget, hnothing] at hfinish
  obtain ⟨rfl, rfl⟩ := Prod.mk.inj hfinish
  exact ⟨rfl, ⟨core, (get?_put hget _ seat.ref).trans (if_pos rfl), rfl, hwidget⟩, hrecord⟩

/-- Where all pages are live they are all added, and then calls of the hook are made. -/
theorem complete {found : List (String × WidgetId)} (hhas : site.HasRegister seat spec calls tabs)
    (hfree : ∀ made ∈ spec.hook, made.HandleFree)
    (hpages : Element.pages spec.id bound children = .ok found)
    (hlive : ∀ entry ∈ found, entry.2 ∈ site.toolkit.live)
    (hfinish : (onElement seat.ref (Element.postSubtree children bound)).perform site =
      (finish, finished)) :
    ∃ made, MadeOf spec.id spec.hook made finish ∧
      finished.HasRegister seat spec (calls ++ found.map Call.ofEntry ++ made)
        (tabs ++ found.map Tab.ofEntry) := by
  obtain ⟨⟨core, hget, rfl, hwidget⟩, record, hrecord, htype, rfl, rfl⟩ := hhas
  have hboth := Element.perform_postSubtree_register core (record.tabs.map Tab.text) children bound
    site.toolkit
  obtain ⟨paged, hadded, hpaged⟩ :=
    Element.addTabs_logs hwidget record.tabs hrecord htype hlive
  rcases hhook : core.runHook.perform paged with ⟨result, hooked⟩
  obtain ⟨made, hmade, hlogs⟩ := Core.runHook_logs hwidget hfree hhook
  obtain ⟨later, hlater, hlaterType, hcalls, htabs⟩ := (hpaged.trans hlogs).record record hrecord
  rw [show core.id = core.spec.id from rfl, hpages] at hboth
  dsimp only at hboth
  rw [Act.perform_bind_ok hadded, Element.perform_onCore, Core.perform_thenDo, hhook] at hboth
  rw [perform_onElement hget, hboth] at hfinish
  obtain ⟨rfl, rfl⟩ := Prod.mk.inj hfinish
  refine ⟨made, hmade, ⟨core, (get?_put hget _ seat.ref).trans (if_pos rfl), rfl, hwidget⟩, later,
    hlater, hlaterType.trans htype, ?_, ?_⟩
  · rw [hcalls, List.append_assoc]
  · rw [htabs, List.append_nil]

end HasRegister

end Site

end WidgetTree
