import WidgetTree.Proofs.Build.Follow

namespace WidgetTree

open Text

/-- The role in which nodes of a kind are built. -/
def Role.ofKind : Option Kind → Role
  | some .root => .window
  | some .listBox => .collection {}
  | some .listBoxTables => .collection {}
  | some .listBoxCheckboxes => .collection {}
  | some .button => .button
  | some .checkBox => .checkbox none
  | some .register => .register []
  | some (.custom _) => .generic
  | none => .generic

private theorem Role.eq_register_of_name {kind : Option Kind}
    (hname : (Role.ofKind kind).name = "register") : kind = some .register := by
  cases kind with
  | none => simp [Role.ofKind, Role.name] at hname
  | some kind => cases kind <;> simp [Role.ofKind, Role.name] at hname ⊢

/-- The standard resolver finds a role for every kind. -/
theorem element_standard (spec : NodeSpec) :
    Resolver.standard.element spec = .ok (.ofSpec (.ofKind (Kind.of? spec)) spec) := by
  unfold Resolver.element Resolver.resolve
  cases Kind.of? spec with
  | none => rfl
  | some kind => cases kind <;> rfl

namespace Core

variable (ledger : Ledger) (ref : ElementRef) {work : Work Core Forest} (config : Config)
variable (target : Option WidgetId)

/-- The steps in which the core of a node is built. -/
def buildSteps (spec : NodeSpec) (widgetType : Option String) (ref : ElementRef)
    (target : Option WidgetId) (deeds : List Deed) (widget : WidgetId) : Act Ledger Unit := do
  Ledger.construct ref spec.id widgetType target spec.constructorArgs
  takeSteps (deeds.map (.work spec.id widget))

private theorem buildSteps_append (spec : NodeSpec) (widgetType : Option String)
    (first second : List Deed) (widget : WidgetId) :
    buildSteps spec widgetType ref target (first ++ second) widget =
      (buildSteps spec widgetType ref target first widget >>= fun _ =>
        takeSteps (second.map (.work spec.id widget))) := by
  simp [buildSteps, takeSteps_append]

private theorem markBuilt_follows : Follows (ledger.withCore ref) markBuilt (pure ()) work :=
  .silent rfl rfl

variable (core : Core) (forest : Forest)

/-- A widget that is no window is constructed, attached and configured. -/
theorem buildAs_follows (widgetType : String) (hroot : Kind.of? core.spec ≠ some .root) :
    Follows (ledger.withCore ref) (buildAs config target widgetType)
      (buildSteps core.spec (some widgetType) ref target
        (core.spec.placing config ++ core.spec.furnishing) forest.next)
      ⟨core, forest⟩ := by
  rw [buildAs, buildSteps, List.map_append, takeSteps_append]
  refine (construct_follows ledger ref widgetType target core forest).bind ?_
  intro widget built hbuilt
  obtain ⟨hwidget, hspec⟩ := construct_eq_ok hbuilt
  rw [← hspec] at hroot ⊢
  refine (thenDo_follows ledger ref (attach_follows _ _ hwidget config hroot)).bind ?_
  intro _ attached hattached
  have hsubject := subject_thenDo hattached
  rw [← hsubject] at hwidget ⊢
  refine (thenDo_follows ledger ref (configure_follows _ _ hwidget)).bind_silent ?_
  intro _ configured _
  exact markBuilt_follows ledger ref

/-- A widget whose type the node has to declare is not constructed if it does not. -/
theorem build_follows (hroot : Kind.of? core.spec ≠ some .root) :
    Follows (ledger.withCore ref) (build config target)
      (buildSteps core.spec core.spec.widgetType ref target
        (core.spec.placing config ++ core.spec.furnishing) forest.next)
      ⟨core, forest⟩ := by
  rw [build]
  refine .silent_bind (Act.perform_subject _) rfl ?_
  dsimp only
  cases core.spec.widgetType with
  | none => exact .failed rfl rfl
  | some widgetType => exact buildAs_follows ledger ref config target core forest widgetType hroot

/-- A window is constructed, given what is configured for windows, and configured itself. -/
theorem buildWindow_follows (hroot : Kind.of? core.spec = some .root) :
    Follows (ledger.withCore ref) (buildWindow config target)
      (buildSteps core.spec (some (core.spec.widgetType.getD config.rootWidgetType)) ref target
        (core.spec.placing config ++ core.spec.furnishing) forest.next)
      ⟨core, forest⟩ := by
  rw [buildWindow, buildSteps, List.map_append, takeSteps_append, NodeSpec.placing, if_pos hroot,
    List.map_append, takeSteps_append, bind_assoc]
  refine .silent_bind (Act.perform_subject _) rfl ?_
  refine (construct_follows ledger ref _ target core forest).bind ?_
  intro widget built hbuilt
  obtain ⟨hwidget, hspec⟩ := construct_eq_ok hbuilt
  rw [← hspec]
  refine (thenDo_follows ledger ref (callWith_follows _ _ hwidget "geometry" _)).bind ?_
  intro _ sized hsized
  have hkept := subject_thenDo hsized
  rw [← hkept] at hwidget ⊢
  refine (thenDo_follows ledger ref (callWith_follows _ _ hwidget "title" _)).bind ?_
  intro _ titled htitled
  have hkept := subject_thenDo htitled
  rw [← hkept] at hwidget ⊢
  refine (thenDo_follows ledger ref (configure_follows _ _ hwidget)).bind_silent ?_
  intro _ configured _
  exact markBuilt_follows ledger ref

variable {core forest} {after : Work Core Forest}

/-- What is built has the next widget, and is still the core of its node. -/
theorem buildAs_eq_ok {config : Config} {target : Option WidgetId} {widgetType : String}
    (hbuild : (buildAs config target widgetType).perform ⟨core, forest⟩ = (.ok (), after)) :
    after.subject.widget = some forest.next ∧ after.subject.spec = core.spec := by
  rw [buildAs, Act.perform_bind_eq_ok_iff] at hbuild
  obtain ⟨_, built, hbuilt, hrest⟩ := hbuild
  rw [Act.perform_bind_eq_ok_iff] at hrest
  obtain ⟨_, attached, hattached, hrest⟩ := hrest
  rw [Act.perform_bind_eq_ok_iff] at hrest
  obtain ⟨_, configured, hconfigured, hmark⟩ := hrest
  obtain ⟨hwidget, hspec⟩ := construct_eq_ok hbuilt
  rw [← subject_thenDo hattached, ← subject_thenDo hconfigured] at hwidget hspec
  cases hmark
  exact ⟨hwidget, hspec⟩

private theorem build_eq_ok {config : Config} {target : Option WidgetId}
    (hbuild : (build config target).perform ⟨core, forest⟩ = (.ok (), after)) :
    after.subject.widget = some forest.next ∧ after.subject.spec = core.spec := by
  rw [build, Act.perform_bind_ok (Act.perform_subject _)] at hbuild
  dsimp only at hbuild
  cases htype : core.spec.widgetType with
  | none =>
    rw [htype] at hbuild
    cases hbuild
  | some widgetType =>
    rw [htype] at hbuild
    exact buildAs_eq_ok hbuild

private theorem buildWindow_eq_ok {config : Config} {target : Option WidgetId}
    (hbuild : (buildWindow config target).perform ⟨core, forest⟩ = (.ok (), after)) :
    after.subject.widget = some forest.next ∧ after.subject.spec = core.spec := by
  rw [buildWindow, Act.perform_bind_ok (Act.perform_subject _),
    Act.perform_bind_eq_ok_iff] at hbuild
  obtain ⟨_, built, hbuilt, hrest⟩ := hbuild
  rw [Act.perform_bind_eq_ok_iff] at hrest
  obtain ⟨_, sized, hsized, hrest⟩ := hrest
  rw [Act.perform_bind_eq_ok_iff] at hrest
  obtain ⟨_, titled, htitled, hrest⟩ := hrest
  rw [Act.perform_bind_eq_ok_iff] at hrest
  obtain ⟨_, configured, hconfigured, hmark⟩ := hrest
  obtain ⟨hwidget, hspec⟩ := construct_eq_ok hbuilt
  rw [← subject_thenDo hsized, ← subject_thenDo htitled, ← subject_thenDo hconfigured]
    at hwidget hspec
  cases hmark
  exact ⟨hwidget, hspec⟩

end Core

/-- The ledger with one element as it is in the course of work on it. -/
def Ledger.withElement (ledger : Ledger) (ref : ElementRef) (work : Work Element Forest) : Ledger :=
  ledger.withCore ref ⟨work.subject.core, work.toolkit⟩

namespace Element

variable (ledger : Ledger) (ref : ElementRef) (config : Config) (target : Option WidgetId)

/-- Steps are not concerned with roles. -/
theorem onCore_follows {α : Type} {act : Act (Work Core Forest) α} {steps : Act Ledger Unit}
    {core : Core} {forest : Forest} (hact : Follows (ledger.withCore ref) act steps ⟨core, forest⟩)
    (role : Role) : Follows (ledger.withElement ref) (onCore act) steps ⟨⟨core, role⟩, forest⟩ :=
  ⟨hact.result, hact.ledger⟩

/-- Work on the core of an element leaves its role. -/
theorem perform_onCore {σ α : Type} (act : Act (Work Core σ) α) (core : Core) (role : Role)
    (toolkit : σ) :
    (onCore act).perform ⟨⟨core, role⟩, toolkit⟩ =
      ((act.perform ⟨core, toolkit⟩).1,
        ⟨⟨(act.perform ⟨core, toolkit⟩).2.subject, role⟩,
          (act.perform ⟨core, toolkit⟩).2.toolkit⟩) :=
  rfl

/-- Work on the core that succeeds leaves its core to the element, and the role as it was. -/
theorem onCore_eq_ok {σ α : Type} {act : Act (Work Core σ) α} {core : Core} {role : Role}
    {toolkit : σ} {result : α} {after : Work Element σ}
    (hact : (onCore act).perform ⟨⟨core, role⟩, toolkit⟩ = (.ok result, after)) :
    act.perform ⟨core, toolkit⟩ = (.ok result, ⟨after.subject.core, after.toolkit⟩) ∧
      after.subject.role = role := by
  rw [perform_onCore, Prod.mk.injEq] at hact
  obtain ⟨hresult, rfl⟩ := hact
  exact ⟨Prod.ext hresult rfl, rfl⟩

/-- Sharing a state variable is creating it and then making one call. -/
theorem shareVariable_follows {core : Core} {role : Role} {forest : Forest} {widget : WidgetId}
    (hwidget : core.widget = some widget) {next : VariableId → Act (Work Element Forest) Unit}
    (hnext : ∀ handle work, Follows (ledger.withElement ref) (next handle) (pure ()) work) :
    Follows (ledger.withElement ref)
      (do
        let status ← Act.inToolkit <| ExceptT.mk fun toolkit =>
          let (handle, toolkit) := Toolkit.createVariable (.int 0) toolkit
          (.ok handle, toolkit)
        let _ ← onCore (Core.thenDo (·.invoke (shareVariable status)))
        next status)
      (BuildStep.work core.id widget .shareVariable).act ⟨⟨core, role⟩, forest⟩ := by
  have hcall (handle : VariableId) (forest : Forest) :
      Follows (ledger.withElement ref)
        (do
          let _ ← onCore (Core.thenDo (·.invoke (shareVariable handle)))
          next handle)
        (Ledger.inForest (Deed.makeCall core.id widget (shareVariable handle)))
        ⟨⟨core, role⟩, forest⟩ := by
    refine (onCore_follows ledger ref (Core.thenDo_follows ledger ref ?_) role).bind_silent ?_
    · exact .silent_bind (Core.perform_requireWidget hwidget forest) rfl
        (Core.call_follows _ forest core.id widget _)
    · exact fun _ after _ => hnext handle after
  have hcreated := hcall (forest.createVariable (.int 0)).1 (forest.createVariable (.int 0)).2
  exact ⟨hcreated.result, hcreated.ledger⟩

/-- A check box is built like any widget and then made to share a state variable. -/
theorem buildCheckbox_follows {spec : NodeSpec} (hkind : Kind.of? spec = some .checkBox)
    (role : Role) (forest : Forest) :
    Follows (ledger.withElement ref) (buildCheckbox config target)
      (Core.buildSteps spec (spec.typeIn config) ref target (spec.deeds config) forest.next)
      ⟨⟨.ofSpec spec, role⟩, forest⟩ := by
  have hroot : Kind.of? spec ≠ some .root := by simp [hkind]
  have htype : spec.typeIn config = spec.widgetType := by simp [NodeSpec.typeIn, hkind]
  rw [buildCheckbox, htype, NodeSpec.deeds, if_pos hkind, Core.buildSteps_append]
  have hbuild := Core.build_follows ledger ref config target (.ofSpec spec) forest hroot
  refine (onCore_follows ledger ref hbuild role).bind ?_
  intro _ built hbuilt
  obtain ⟨hcore, -⟩ := onCore_eq_ok hbuilt
  obtain ⟨hwidget, hspec⟩ := Core.build_eq_ok hcore
  have hid : built.subject.core.id = spec.id := congrArg NodeSpec.id hspec
  rw [List.map_singleton, takeSteps_singleton, ← hid]
  refine shareVariable_follows ledger ref hwidget ?_
  intro handle work
  exact .silent rfl rfl

/-- The element of a node is built in the steps of the node up to its binding. -/
theorem build_follows (spec : NodeSpec) (forest : Forest) :
    Follows (ledger.withElement ref) (build config target)
      (Core.buildSteps spec (spec.typeIn config) ref target (spec.deeds config) forest.next)
      ⟨.ofSpec (.ofKind (Kind.of? spec)) spec, forest⟩ := by
  have hplain (hroot : Kind.of? spec ≠ some .root) (hcheck : Kind.of? spec ≠ some .checkBox)
      (htype : spec.typeIn config = spec.widgetType) (role : Role) :
      Follows (ledger.withElement ref) (onCore (Core.build config target))
        (Core.buildSteps spec (spec.typeIn config) ref target (spec.deeds config) forest.next)
        ⟨⟨.ofSpec spec, role⟩, forest⟩ := by
    rw [htype, NodeSpec.deeds, if_neg hcheck, List.append_nil]
    have hbuild := Core.build_follows ledger ref config target (.ofSpec spec) forest hroot
    exact onCore_follows ledger ref hbuild role
  rw [build]
  refine .silent_bind (Act.perform_subject _) rfl ?_
  cases hkind : Kind.of? spec with
  | none => exact hplain (by simp [hkind]) (by simp [hkind]) (by simp [NodeSpec.typeIn, hkind]) _
  | some kind =>
    cases kind with
    | root =>
      have hcheck : Kind.of? spec ≠ some .checkBox := by simp [hkind]
      have htype : spec.typeIn config = some (spec.widgetType.getD config.rootWidgetType) := by
        simp [NodeSpec.typeIn, hkind]
      rw [htype, NodeSpec.deeds, if_neg hcheck, List.append_nil]
      have hbuild := Core.buildWindow_follows ledger ref config target (.ofSpec spec) forest hkind
      exact onCore_follows ledger ref hbuild _
    | register =>
      have hroot : Kind.of? spec ≠ some .root := by simp [hkind]
      have hcheck : Kind.of? spec ≠ some .checkBox := by simp [hkind]
      have htype : spec.typeIn config = some config.registerWidgetType := by
        simp [NodeSpec.typeIn, hkind]
      rw [htype, NodeSpec.deeds, if_neg hcheck, List.append_nil]
      have hbuild := Core.buildAs_follows ledger ref config target (.ofSpec spec) forest
        config.registerWidgetType hroot
      exact onCore_follows ledger ref hbuild _
    | checkBox => exact buildCheckbox_follows ledger ref config target hkind _ forest
    | button | custom =>
      exact hplain (by simp [hkind]) (by simp [hkind]) (by simp [NodeSpec.typeIn, hkind]) _
    | listBox | listBoxTables | listBoxCheckboxes =>
      refine .silent_bind rfl rfl ?_
      exact hplain (by simp [hkind]) (by simp [hkind]) (by simp [NodeSpec.typeIn, hkind]) _

private theorem buildCheckbox_eq_ok {config : Config} {target : Option WidgetId} {spec : NodeSpec}
    {role : Role} {forest : Forest} {after : Work Element Forest}
    (hbuild : (buildCheckbox config target).perform ⟨⟨.ofSpec spec, role⟩, forest⟩ =
      (.ok (), after)) :
    after.subject.core.widget = some forest.next ∧ after.subject.core.spec = spec ∧
      after.subject.role.name = "checkbox" := by
  rw [buildCheckbox, Act.perform_bind_eq_ok_iff] at hbuild
  obtain ⟨_, built, hbuilt, hrest⟩ := hbuild
  rw [Act.perform_bind_eq_ok_iff] at hrest
  obtain ⟨handle, created, hcreated, hrest⟩ := hrest
  rw [Act.perform_bind_eq_ok_iff] at hrest
  obtain ⟨_, shared, hshared, hrole⟩ := hrest
  obtain ⟨hcore, -⟩ := onCore_eq_ok hbuilt
  obtain ⟨hwidget, hspec⟩ := Core.build_eq_ok hcore
  have hkept : created.subject = built.subject :=
    (congrArg (fun outcome => outcome.2.subject) hcreated).symm
  obtain ⟨hinvoke, -⟩ := onCore_eq_ok hshared
  have hsubject := Core.subject_thenDo hinvoke
  dsimp only at hsubject
  rw [← hkept, ← hsubject] at hwidget hspec
  cases hrole
  exact ⟨hwidget, hspec, rfl⟩

/-- What is built has the next widget, is still the element of its node, and plays its role. -/
theorem build_eq_ok {config : Config} {target : Option WidgetId} {spec : NodeSpec} {forest : Forest}
    {after : Work Element Forest}
    (hbuild : (build config target).perform ⟨.ofSpec (.ofKind (Kind.of? spec)) spec, forest⟩ =
      (.ok (), after)) :
    after.subject.core.widget = some forest.next ∧ after.subject.core.spec = spec ∧
      after.subject.role.name = (Role.ofKind (Kind.of? spec)).name := by
  have hplain (role : Role)
      (hcore : (onCore (Core.build config target)).perform ⟨⟨.ofSpec spec, role⟩, forest⟩ =
        (.ok (), after)) :
      after.subject.core.widget = some forest.next ∧ after.subject.core.spec = spec ∧
        after.subject.role.name = role.name := by
    obtain ⟨hcore, hrole⟩ := onCore_eq_ok hcore
    obtain ⟨hwidget, hspec⟩ := Core.build_eq_ok hcore
    exact ⟨hwidget, hspec, by rw [hrole]⟩
  rw [build, Act.perform_bind_ok (Act.perform_subject _)] at hbuild
  cases hkind : Kind.of? spec with
  | none =>
    rw [hkind] at hbuild
    exact hplain _ hbuild
  | some kind =>
    rw [hkind] at hbuild
    cases kind with
    | root =>
      obtain ⟨hcore, hrole⟩ := onCore_eq_ok hbuild
      obtain ⟨hwidget, hspec⟩ := Core.buildWindow_eq_ok hcore
      exact ⟨hwidget, hspec, by rw [hrole]⟩
    | register =>
      obtain ⟨hcore, hrole⟩ := onCore_eq_ok hbuild
      obtain ⟨hwidget, hspec⟩ := Core.buildAs_eq_ok hcore
      exact ⟨hwidget, hspec, by rw [hrole]⟩
    | checkBox => exact buildCheckbox_eq_ok hbuild
    | button | custom => exact hplain _ hbuild
    | listBox | listBoxTables | listBoxCheckboxes => exact hplain (.collection { config }) hbuild

section Pages

variable {ledger ref} {register : String}

private theorem map_pages_eq (register : String) (children : List NodeTree) :
    (pages register ledger.bound children).map (fun _ => ()) =
      ledger.checkPages register (children.map NodeTree.spec) := by
  induction children with
  | nil => rfl
  | cons child rest ih =>
    rw [pages, List.map_cons, Ledger.checkPages, Ledger.page]
    cases child.spec.binding with
    | none => rfl
    | some name =>
      cases hname : ledger.bound name with
      | none => simp only [hname]; rfl
      | some page =>
        simp only [hname]
        rw [← ih]
        cases pages register ledger.bound rest <;> rfl

private theorem forall₂_of_pages {children : List NodeTree} {found : List (String × WidgetId)}
    (hpages : pages register ledger.bound children = .ok found) :
    List.Forall₂ (fun child entry => entry.1 = child.id ∧ ledger.page register child = .ok entry.2)
      (children.map NodeTree.spec) found := by
  induction children generalizing found with
  | nil =>
    cases hpages
    exact .nil
  | cons child rest ih =>
    rw [pages] at hpages
    cases hbinding : child.spec.binding with
    | none =>
      rw [hbinding] at hpages
      cases hpages
    | some name =>
      cases hname : ledger.bound name with
      | none =>
        simp only [hbinding, hname] at hpages
        cases hpages
      | some page =>
        simp only [hbinding, hname] at hpages
        cases hrest : pages register ledger.bound rest with
        | error error =>
          rw [hrest] at hpages
          cases hpages
        | ok others =>
          rw [hrest] at hpages
          cases hpages
          refine .cons ⟨rfl, ?_⟩ (ih hrest)
          rw [Ledger.page, hbinding]
          simp only [hname]

end Pages

/-- Noting a tab changes at most the role. -/
theorem noteTab_eq (id : String) (core : Core) (role : Role) :
    ∃ noted, noteTab id ⟨core, role⟩ = ⟨core, noted⟩ := by
  cases role <;> exact ⟨_, rfl⟩

private theorem addTabs_preserves (core : Core) (found : List (String × WidgetId)) :
    Act.Preserves (fun work : Work Element Forest => work.subject.core = core) (addTabs found) := by
  induction found with
  | nil => exact .pure ()
  | cons entry rest ih =>
    refine .bind ?_ fun _ => .bind ?_ fun _ => ih
    · exact fun work hcore => hcore
    · intro work hcore
      obtain ⟨noted, hnoted⟩ := noteTab_eq entry.1 work.subject.core work.subject.role
      have hkept := congrArg Element.core hnoted
      exact hkept.trans hcore

/-- Looking at all pages is one step, which fails as the first page does. -/
theorem checkPages_follows (register : String) (children : List NodeTree)
    (work : Work Element Forest) :
    Follows (ledger.withElement ref)
      (Act.ofExcept (pages register (ledger.withElement ref work).bound children))
      (BuildStep.checkPages register (children.map NodeTree.spec)).act work := by
  constructor
  · rw [BuildStep.act, Act.perform_bind_ok (Act.perform_get _), Act.perform_ofExcept,
      Act.perform_ofExcept]
    exact map_pages_eq register children
  · rfl

private theorem addPage_follows {core : Core} {widget page : WidgetId}
    (hwidget : core.widget = some widget) {child : NodeSpec} (role : Role) (forest : Forest)
    (hpage : (ledger.withElement ref ⟨⟨core, role⟩, forest⟩).page core.id child = .ok page) :
    Follows (ledger.withElement ref) (onCore (Core.thenDo (·.invoke (addTab child.id page))))
      (BuildStep.addPage core.id widget child).act ⟨⟨core, role⟩, forest⟩ := by
  have hcall : Follows (ledger.withElement ref)
      (onCore (Core.thenDo (·.invoke (addTab child.id page))))
      (Ledger.inForest (Deed.makeCall core.id widget (addTab child.id page)))
      ⟨⟨core, role⟩, forest⟩ := by
    refine onCore_follows ledger ref (Core.thenDo_follows ledger ref ?_) role
    exact .silent_bind (Core.perform_requireWidget hwidget forest) rfl
      (Core.call_follows _ forest core.id widget _)
  refine hcall.congr ?_
  rw [BuildStep.act, Act.perform_bind_ok (Act.perform_get _), Act.perform_bind_ok]
  rw [Act.perform_ofExcept, hpage]

/-- Pages that were found are added in the order of the children. -/
theorem addTabs_follows {core : Core} {widget : WidgetId} (hwidget : core.widget = some widget)
    {children : List NodeSpec} {found : List (String × WidgetId)}
    (hfound : List.Forall₂ (fun child entry => entry.1 = child.id ∧ ∀ role forest,
      (ledger.withElement ref ⟨⟨core, role⟩, forest⟩).page core.id child = .ok entry.2)
      children found) (role : Role) (forest : Forest) :
    Follows (ledger.withElement ref) (addTabs found)
      (takeSteps (children.map (.addPage core.id widget))) ⟨⟨core, role⟩, forest⟩ := by
  induction hfound generalizing role forest with
  | nil => exact .pure ()
  | @cons child entry children found hentry hrest ih =>
    obtain ⟨id, page⟩ := entry
    obtain ⟨rfl, hpage⟩ := hentry
    have hadd := addPage_follows ledger ref hwidget role forest (hpage role forest)
    refine hadd.bind ?_
    rintro _ ⟨⟨added, kept⟩, toolkit⟩ hadded
    obtain ⟨hinvoke, -⟩ := onCore_eq_ok hadded
    have hsubject : added = core := Core.subject_thenDo hinvoke
    subst hsubject
    obtain ⟨noted, hnoted⟩ := noteTab_eq child.id added kept
    refine .silent_bind (Act.perform_setSubject _ _) ?_ ?_
    · simp only [hnoted]
      rfl
    · simp only [hnoted]
      exact ih noted toolkit

/-- Once all children are built, an element is finished in the closing steps of its node. -/
theorem postSubtree_follows {core : Core} {role : Role} {spec : NodeSpec} {seat : Seat}
    (hspec : core.spec = spec) (hwidget : core.widget = some seat.widget)
    (hrole : role.name = (Role.ofKind (Kind.of? spec)).name) (children : List NodeTree)
    (forest : Forest) :
    Follows (ledger.withElement ref)
      (postSubtree children (ledger.withElement ref ⟨⟨core, role⟩, forest⟩).bound)
      (takeSteps (spec.closingSteps seat (children.map NodeTree.spec))) ⟨⟨core, role⟩, forest⟩ := by
  subst hspec
  have hhook (role : Role) (forest : Forest) :
      Follows (ledger.withElement ref) (onCore (Core.thenDo (·.runHook)))
        (takeSteps (core.spec.hook.map fun made => .work core.spec.id seat.widget (.call made)))
        ⟨⟨core, role⟩, forest⟩ :=
    onCore_follows ledger ref (Core.thenDo_follows ledger ref
      (Core.runHook_follows _ forest hwidget)) role
  rw [postSubtree]
  refine .silent_bind (Act.perform_subject _) rfl ?_
  rw [NodeSpec.closingSteps, takeSteps_append]
  by_cases hkind : Kind.of? core.spec = some .register
  · cases role with
    | register tabs =>
      rw [if_pos hkind, takeSteps, bind_assoc]
      refine (checkPages_follows ledger ref core.spec.id children _).bind ?_
      intro found checked hchecked
      obtain ⟨hpages, hkept⟩ := Prod.mk.inj hchecked
      subst hkept
      have hfound := forall₂_of_pages hpages
      refine (addTabs_follows ledger ref hwidget (hfound.imp ?_) _ forest).bind ?_
      · exact fun child entry hentry => ⟨hentry.1, fun _ _ => hentry.2⟩
      · rintro _ ⟨⟨added, noted⟩, toolkit⟩ hadded
        have hcore : added = core := by
          have hkept := addTabs_preserves core found ⟨⟨core, .register tabs⟩, forest⟩ rfl
          rwa [hadded] at hkept
        subst hcore
        exact hhook noted toolkit
    | generic | window | button | checkbox | collection =>
      rw [hkind] at hrole
      simp [Role.name, Role.ofKind] at hrole
  · rw [if_neg hkind, takeSteps, pure_bind]
    cases role with
    | register tabs => exact absurd (Role.eq_register_of_name hrole.symm) hkind
    | generic | window | button | checkbox | collection => exact hhook _ forest

end Element

end WidgetTree
