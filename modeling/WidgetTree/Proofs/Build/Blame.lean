import WidgetTree.Proofs.Build.Trace
import WidgetTree.Proofs.Forest.Failure

namespace WidgetTree

namespace Forest

/-- The forest reports an error to a request. -/
def Reports (forest : Forest) (source : ToolkitError) : Request → Prop
  | .construct widgetType parent args => (forest.construct widgetType parent args).1 = .error source
  | .attach widget strategy args => (forest.attach widget strategy args).1 = .error source
  | .setAttribute widget name value => (forest.setAttribute widget name value).1 = .error source
  | .invoke widget call => (forest.invoke widget call).1 = .error source
  | .destroy widget => (forest.destroy widget).1 = .error source
  | .readVariable handle => (forest.readVariable handle).1 = .error source
  | .writeVariable handle value => (forest.writeVariable handle value).1 = .error source
  | .createVariable _ | .registerCommand | .fireCommand _ => False

/-- The error of a build that a report makes, in the name of a node. -/
def Request.describe (node : String) (source : ToolkitError) : Request → BuildError
  | .attach .. => .ofAttach node source
  | .invoke _ call => .ofInvoke node call.method source
  | _ => .toolkit node source

variable {forest : Forest} {request : Request} {source : ToolkitError}

private theorem Reports.unique {other : ToolkitError} (hreports : forest.Reports source request)
    (hother : forest.Reports other request) : source = other := by
  cases request with
  | createVariable | registerCommand | fireCommand => cases hreports
  | construct | attach | setAttribute | invoke | destroy | readVariable | writeVariable =>
    simp only [Reports] at hreports hother
    simpa [hreports] using hother

private theorem classOf_eq_error {widget : WidgetId}
    (hclass : forest.classOf widget = .error source) :
    source = .deadWidget ∨ ∃ widgetType, source = .unknownWidgetType widgetType := by
  unfold classOf at hclass
  split at hclass
  · exact .inl (Except.error.inj hclass).symm
  · split at hclass
    · exact .inr ⟨_, (Except.error.inj hclass).symm⟩
    · cases hclass

/-- No method call fails for want of a layout. -/
theorem invoke_ne_unsupportedAttach {widget : WidgetId} {call : Call}
    {widgetType strategy : String} :
    (forest.invoke widget call).1 ≠ .error (.unsupportedAttach widgetType strategy) := by
  intro hinvoke
  rcases houtcome : forest.invoke widget call with ⟨result, after⟩
  rw [houtcome] at hinvoke
  obtain rfl : result = .error (.unsupportedAttach widgetType strategy) := hinvoke
  cases haccepts : forest.accepts widget call.method with
  | true =>
    obtain ⟨record, hrecord⟩ : ∃ record, forest.record? widget = some record := by
      rcases invoke_cases widget call forest with ⟨hrefused, -⟩ | ⟨-, record, -, hrecord, -⟩
      · rw [haccepts] at hrefused
        cases hrefused
      · exact ⟨record, hrecord⟩
    rw [invoke_of_accepts hrecord haccepts] at houtcome
    have hcarried : (forest.noted widget call).carryOut widget (noteCall call record)
        (Behaviour.of (noteCall call record).widgetType call.method) call =
          (.error (.unsupportedAttach widgetType strategy), after) := houtcome
    cases (carryOut_eq_error hcarried).2
  | false =>
    unfold invoke at houtcome
    unfold accepts at haccepts
    cases hclass : forest.classOf widget with
    | error error =>
      rw [hclass] at houtcome
      cases houtcome
      rcases classOf_eq_error hclass with hdead | ⟨unknown, hunknown⟩
      · cases hdead
      · cases hunknown
    | ok cls =>
      rw [hclass] at houtcome haccepts
      obtain ⟨record, hrecord⟩ := exists_record?_of_classOf hclass
      simp only [hrecord] at houtcome
      split at houtcome
      · next hmethod => simp [hmethod] at haccepts
      · cases houtcome

/-- Only attachments are refused for want of a layout. -/
theorem Reports.attach_of_unsupported {widgetType strategy : String}
    (hreports : forest.Reports (.unsupportedAttach widgetType strategy) request) :
    ∃ widget wanted args, request = .attach widget wanted args := by
  cases request with
  | attach widget wanted args => exact ⟨widget, wanted, args, rfl⟩
  | construct kind parent args =>
    simp only [Reports, construct] at hreports
    repeat (split at hreports <;> try cases hreports)
  | setAttribute widget name value =>
    simp only [Reports, setAttribute] at hreports
    split at hreports <;> cases hreports
  | invoke widget call => exact absurd hreports invoke_ne_unsupportedAttach
  | destroy widget =>
    simp only [Reports, destroy] at hreports
    split at hreports <;> cases hreports
  | readVariable handle =>
    simp only [Reports, readVariable] at hreports
    split at hreports <;> cases hreports
  | writeVariable handle value =>
    simp only [Reports, writeVariable] at hreports
    split at hreports <;> cases hreports
  | createVariable | registerCommand | fireCommand => cases hreports

end Forest

/-- A register finds no page for a child: it has no name to be bound under, or nothing built is
bound under that name. -/
def Ledger.unpaged (ledger : Ledger) (child : NodeSpec) : Bool :=
  (child.binding.bind ledger.bound).isNone

private theorem Ledger.page_of_unpaged {ledger : Ledger} (register : String) {child : NodeSpec}
    (hunpaged : ledger.unpaged child = true) :
    ∃ message, ledger.page register child = .error (.configuration child.id message) := by
  unfold unpaged at hunpaged
  rw [page]
  cases hbinding : child.binding with
  | none => exact ⟨_, rfl⟩
  | some name =>
    rw [hbinding, Option.bind_some, Option.isNone_iff_eq_none] at hunpaged
    simp [hunpaged]

private theorem Ledger.page_of_paged {ledger : Ledger} (register : String) {child : NodeSpec}
    (hpaged : ledger.unpaged child = false) : ∃ page, ledger.page register child = .ok page := by
  unfold unpaged at hpaged
  rw [page]
  cases hbinding : child.binding with
  | none => simp [hbinding] at hpaged
  | some name =>
    rw [hbinding, Option.bind_some, Option.isNone_eq_false_iff, Option.isSome_iff_exists] at hpaged
    obtain ⟨page, hbound⟩ := hpaged
    simp [hbound]

/-- A look at all pages fails at the first child that has none, and in the name of that child. -/
theorem Ledger.checkPages_eq_error {ledger : Ledger} {register : String} {children : List NodeSpec}
    {error : BuildError} (hcheck : ledger.checkPages register children = .error error) :
    ∃ child, children.find? ledger.unpaged = some child ∧
      ∃ message, error = .configuration child.id message := by
  induction children with
  | nil => cases hcheck
  | cons child rest ih =>
    rw [checkPages] at hcheck
    cases hunpaged : ledger.unpaged child with
    | true =>
      obtain ⟨message, hpage⟩ := page_of_unpaged register hunpaged
      rw [hpage] at hcheck
      exact ⟨child, by simp [hunpaged], message, (Except.error.inj hcheck).symm⟩
    | false =>
      obtain ⟨page, hpage⟩ := page_of_paged register hunpaged
      rw [hpage] at hcheck
      obtain ⟨later, hlater, hnamed⟩ := ih hcheck
      exact ⟨later, by simp [hunpaged, hlater], hnamed⟩

namespace BuildStep

/-- The id of the node whose step it is. -/
def node : BuildStep → String
  | construct _ node _ _ _ => node
  | work node _ _ => node
  | bind _ node _ _ => node
  | checkPages register _ => register
  | addPage register _ _ => register

/-- The children whose pages the step looks for. -/
def sought : BuildStep → List NodeSpec
  | checkPages _ children => children
  | addPage _ _ child => [child]
  | construct .. | work .. | bind .. => []

/-- The first child without a page, if the step looks for its page. -/
def missing? (ledger : Ledger) (step : BuildStep) : Option NodeSpec :=
  step.sought.find? ledger.unpaged

/-- What the step asks of the toolkit that may be refused, and what the forest is when it does. A
state variable that is to be shared is there by then. -/
def asks? (ledger : Ledger) : BuildStep → Option (Forest × Forest.Request)
  | construct _ _ widgetType target args =>
    widgetType.map fun name => (ledger.forest, .construct name target args)
  | work _ widget (.attach strategy args) => some (ledger.forest, .attach widget strategy args)
  | work _ widget (.assign name value) => some (ledger.forest, .setAttribute widget name value)
  | work _ widget (.call made) => some (ledger.forest, .invoke widget made)
  | work _ widget .shareVariable =>
    let (status, forest) := ledger.forest.createVariable (.int 0)
    some (forest, .invoke widget (Element.shareVariable status))
  | bind .. => none
  | checkPages .. => none
  | addPage register widget child =>
    match ledger.page register child with
    | .ok page => some (ledger.forest, .invoke widget (Element.addTab child.id page))
    | .error _ => none

/-- How a step comes to fail with an error. -/
inductive Fault (ledger : Ledger) (step : BuildStep) : BuildError → Prop
  /-- The toolkit reports an error. -/
  | reported {forest : Forest} {request : Forest.Request} {source : ToolkitError}
      (hasks : step.asks? ledger = some (forest, request)) (hpaged : step.missing? ledger = none)
      (hreports : forest.Reports source request) :
      Fault ledger step (request.describe step.node source)
  /-- The node has no widget type, or the name for its element is taken. -/
  | own (message : String) (hasks : step.asks? ledger = none)
      (hpaged : step.missing? ledger = none) :
      Fault ledger step (.configuration step.node message)
  /-- A register finds no page for a child. -/
  | page {child : NodeSpec} (message : String) (hasks : step.asks? ledger = none)
      (hmissing : step.missing? ledger = some child) :
      Fault ledger step (.configuration child.id message)

variable {ledger after : Ledger} {error : BuildError}

private theorem fault_of_construct {seat : Seat} {node : String} {widgetType : Option String}
    {target : Option WidgetId} {args : Fields Value}
    (hstep : (construct seat node widgetType target args).act.perform ledger =
      (.error error, after)) :
    Fault ledger (construct seat node widgetType target args) error := by
  have hintroduced : (Ledger.introduce node).perform ledger =
      (.ok (), { ledger with holders := ledger.holders ++ [⟨node, none⟩] }) := rfl
  rw [act, Act.perform_bind_ok hintroduced] at hstep
  cases widgetType with
  | none =>
    cases hstep
    exact .own _ rfl rfl
  | some name =>
    rw [Ledger.perform_construct] at hstep
    rcases houtcome : Forest.construct name target args ledger.forest with ⟨source | widget, left⟩
    · rw [houtcome] at hstep
      cases hstep
      have hreports : ledger.forest.Reports source (.construct name target args) :=
        congrArg Prod.fst houtcome
      exact .reported rfl rfl hreports
    · rw [houtcome] at hstep
      cases hstep

/-- A method call that fails is described as such. -/
theorem error_of_makeCall {node : String} {widget : WidgetId} {made : Call} {forest left : Forest}
    (hcall : (Deed.makeCall node widget made).perform forest = (.error error, left)) :
    ∃ source, forest.Reports source (.invoke widget made) ∧
      error = .ofInvoke node made.method source := by
  rw [Deed.perform_makeCall, Prod.mk.injEq] at hcall
  cases houtcome : (forest.invoke widget made).1 with
  | error source =>
    rw [houtcome] at hcall
    exact ⟨source, houtcome, (Except.error.inj hcall.1).symm⟩
  | ok answer =>
    rw [houtcome] at hcall
    cases hcall.1

private theorem fault_of_work {node : String} {widget : WidgetId} {deed : Deed}
    (hstep : (work node widget deed).act.perform ledger = (.error error, after)) :
    Fault ledger (work node widget deed) error := by
  obtain ⟨hdeed, -, -⟩ := work_spec hstep
  cases deed with
  | attach strategy args =>
    rw [Deed.act, Act.perform_ofOperation, Prod.mk.injEq] at hdeed
    cases houtcome : (Forest.attach widget strategy args ledger.forest).1 with
    | error source =>
      rw [houtcome] at hdeed
      cases hdeed.1
      have hreports : ledger.forest.Reports source (.attach widget strategy args) := houtcome
      exact .reported rfl rfl hreports
    | ok _ =>
      rw [houtcome] at hdeed
      cases hdeed.1
  | assign name value =>
    rw [Deed.act, Act.perform_ofOperation, Prod.mk.injEq] at hdeed
    cases houtcome : (Forest.setAttribute widget name value ledger.forest).1 with
    | error source =>
      rw [houtcome] at hdeed
      cases hdeed.1
      have hreports : ledger.forest.Reports source (.setAttribute widget name value) := houtcome
      exact .reported rfl rfl hreports
    | ok _ =>
      rw [houtcome] at hdeed
      cases hdeed.1
  | call made =>
    obtain ⟨source, hreports, rfl⟩ := error_of_makeCall hdeed
    exact .reported rfl rfl hreports
  | shareVariable =>
    rw [Deed.perform_shareVariable] at hdeed
    obtain ⟨source, hreports, rfl⟩ := error_of_makeCall hdeed
    exact .reported rfl rfl hreports

private theorem fault_of_addPage {register : String} {widget : WidgetId} {child : NodeSpec}
    (hstep : (addPage register widget child).act.perform ledger = (.error error, after)) :
    Fault ledger (addPage register widget child) error := by
  rw [perform_addPage] at hstep
  cases hunpaged : ledger.unpaged child with
  | true =>
    obtain ⟨message, hpage⟩ := Ledger.page_of_unpaged register hunpaged
    rw [hpage] at hstep
    cases hstep
    exact .page message (by simp [asks?, hpage]) (by simp [missing?, sought, hunpaged])
  | false =>
    obtain ⟨page, hpage⟩ := Ledger.page_of_paged register hunpaged
    rw [hpage] at hstep
    obtain ⟨source, hreports, rfl⟩ := error_of_makeCall (Ledger.inForest_spec hstep).1
    have hasks : (addPage register widget child).asks? ledger =
        some (ledger.forest, .invoke widget (Element.addTab child.id page)) := by
      simp [asks?, hpage]
    exact .reported hasks (by simp [missing?, sought, hunpaged]) hreports

/-- Every failure of a step is one of three: the toolkit reports it, or it is the node's own, or it
is for want of a page. -/
theorem fault_of_failed {step : BuildStep}
    (hstep : step.act.perform ledger = (.error error, after)) : Fault ledger step error := by
  cases step with
  | construct => exact fault_of_construct hstep
  | work => exact fault_of_work hstep
  | bind seat node name policy =>
    obtain ⟨-, -, taken, -, rfl⟩ := Ledger.bind_eq_error hstep
    exact .own _ rfl rfl
  | checkPages register children =>
    obtain ⟨-, hcheck⟩ := checkPages_spec hstep
    obtain ⟨child, hmissing, message, rfl⟩ := Ledger.checkPages_eq_error hcheck.symm
    exact .page message rfl hmissing
  | addPage => exact fault_of_addPage hstep

/-- The toolkit has reported nothing to a step that succeeds. -/
theorem not_reports_of_taken {step : BuildStep} {forest : Forest} {request : Forest.Request}
    (hstep : step.act.perform ledger = (.ok (), after))
    (hasks : step.asks? ledger = some (forest, request)) (source : ToolkitError) :
    ¬ forest.Reports source request := by
  intro hreports
  have hcall {node : String} {widget : WidgetId} {made : Call} {start left : Forest}
      (hmade : (Deed.makeCall node widget made).perform start = (.ok (), left)) :
      ¬ start.Reports source (.invoke widget made) := by
    intro hrefused
    rw [Deed.perform_makeCall, show (start.invoke widget made).1 = .error source from hrefused]
      at hmade
    cases hmade
  cases step with
  | bind | checkPages => cases hasks
  | construct seat node widgetType target args =>
    obtain ⟨name, rfl, hname⟩ := Option.map_eq_some_iff.mp hasks
    cases hname
    have hintroduced : (Ledger.introduce node).perform ledger =
        (.ok (), { ledger with holders := ledger.holders ++ [⟨node, none⟩] }) := rfl
    rw [act, Act.perform_bind_ok hintroduced, Ledger.perform_construct] at hstep
    simp only [Forest.Reports] at hreports
    rcases houtcome : Forest.construct name target args ledger.forest with ⟨refused | widget, left⟩
    · rw [houtcome] at hstep
      cases hstep
    · rw [houtcome] at hreports
      cases hreports
  | work node widget deed =>
    obtain ⟨hdeed, -, -⟩ := work_spec hstep
    cases deed with
    | attach | assign =>
      cases hasks
      simp only [Forest.Reports] at hreports
      rw [Deed.act, Act.perform_ofOperation, hreports] at hdeed
      cases hdeed
    | call made =>
      cases hasks
      exact hcall hdeed hreports
    | shareVariable =>
      cases hasks
      rw [Deed.perform_shareVariable] at hdeed
      exact hcall hdeed hreports
  | addPage register widget child =>
    rw [perform_addPage] at hstep
    rw [asks?] at hasks
    cases hpage : ledger.page register child with
    | error refused =>
      rw [hpage] at hasks
      cases hasks
    | ok page =>
      rw [hpage] at hasks hstep
      cases hasks
      exact hcall (Ledger.inForest_spec hstep).1 hreports

namespace Fault

variable {step : BuildStep}

/-- The error names the first child without a page, if that is what is missing, and else the node
whose step it is. -/
theorem node? (hfault : Fault ledger step error) :
    step.missing? ledger = none ∧ error.node? = some step.node ∨
      ∃ child, step.missing? ledger = some child ∧ error.node? = some child.id := by
  cases hfault with
  | own message _ hpaged => exact .inl ⟨hpaged, rfl⟩
  | page message _ hmissing => exact .inr ⟨_, hmissing, rfl⟩
  | @reported _ request source hasks hpaged hreports =>
    refine .inl ⟨hpaged, ?_⟩
    cases request <;> cases source <;> rfl

/-- A report to the step is what its error is made of. -/
theorem eq_describe (hfault : Fault ledger step error) {forest : Forest} {request : Forest.Request}
    {source : ToolkitError} (hasks : step.asks? ledger = some (forest, request))
    (hreports : forest.Reports source request) : error = request.describe step.node source := by
  cases hfault with
  | reported hasked _ hreported =>
    rw [hasks] at hasked
    cases hasked
    rw [hreports.unique hreported]
  | own message hnone =>
    rw [hasks] at hnone
    cases hnone
  | page message hnone =>
    rw [hasks] at hnone
    cases hnone

private theorem attachment_iff (hfault : Fault ledger step error) :
    (∃ node widgetType strategy, error = .attachment node widgetType strategy) ↔
      ∃ forest request widgetType strategy, step.asks? ledger = some (forest, request) ∧
        forest.Reports (.unsupportedAttach widgetType strategy) request := by
  constructor
  · rintro ⟨node, widgetType, strategy, rfl⟩
    generalize herror : BuildError.attachment node widgetType strategy = error at hfault
    cases hfault with
    | own | page => cases herror
    | @reported forest request source hasks hpaged hreports =>
      refine ⟨forest, request, ?_⟩
      cases request <;> cases source <;> cases herror
      exact ⟨widgetType, strategy, hasks, hreports⟩
  · rintro ⟨forest, request, widgetType, strategy, hasks, hreports⟩
    obtain ⟨widget, wanted, args, rfl⟩ := hreports.attach_of_unsupported
    exact ⟨step.node, widgetType, strategy, hfault.eq_describe hasks hreports⟩

private theorem invocation_iff (hfault : Fault ledger step error) :
    (∃ node method source, error = .invocation node method source) ↔
      ∃ forest widget call source, step.asks? ledger = some (forest, .invoke widget call) ∧
        (forest.invoke widget call).1 = .error source ∧
        ((∃ widgetType method, source = .unknownMethod widgetType method) ∨
          ∃ method message, source = .invalidArguments method message) := by
  constructor
  · rintro ⟨node, method, shown, rfl⟩
    generalize herror : BuildError.invocation node method shown = error at hfault
    cases hfault with
    | own | page => cases herror
    | @reported forest request source hasks hpaged hreports =>
      refine ⟨forest, ?_⟩
      cases request <;> cases source <;> cases herror
      · exact ⟨_, _, _, hasks, hreports, .inl ⟨_, _, rfl⟩⟩
      · exact ⟨_, _, _, hasks, hreports, .inr ⟨_, _, rfl⟩⟩
  · rintro ⟨forest, widget, call, source, hasks, hinvoke, hsource⟩
    have hreports : forest.Reports source (.invoke widget call) := hinvoke
    have hdescribed := hfault.eq_describe hasks hreports
    rcases hsource with ⟨widgetType, method, rfl⟩ | ⟨method, message, rfl⟩
    · exact ⟨step.node, call.method, _, hdescribed⟩
    · exact ⟨step.node, call.method, _, hdescribed⟩

end Fault

end BuildStep

/-- In the course of these steps the toolkit reports an error to a request. -/
def Reported (steps : List BuildStep) (ledger : Ledger) (request : Forest.Request)
    (source : ToolkitError) : Prop :=
  ∃ done step later middle forest, steps = done ++ step :: later ∧
    (takeSteps done).perform ledger = (.ok (), middle) ∧
    step.asks? middle = some (forest, request) ∧ forest.Reports source request

section Reported

variable {ledger middle after : Ledger} {before rest : List BuildStep} {failed : BuildStep}
  {error : BuildError}

/-- A step that has failed is not among those that succeed. -/
theorem not_taken_of_failed {more : List BuildStep} {left : Ledger}
    (hbefore : (takeSteps before).perform ledger = (.ok (), middle))
    (hfailed : failed.act.perform middle = (.error error, after)) :
    (takeSteps (before ++ failed :: more)).perform ledger ≠ (.ok (), left) := by
  intro hrun
  obtain ⟨between, hbetween, hrest⟩ := takeSteps_append_eq_ok_iff.mp hrun
  obtain ⟨last, hlast, -⟩ := takeSteps_cons_eq_ok_iff.mp hrest
  rw [hbefore] at hbetween
  cases hbetween
  rw [hfailed] at hlast
  cases hlast

/-- What the toolkit reports in the course of a run that fails, it reports to the step that fails:
the steps before have succeeded, and those behind are not taken. -/
theorem reported_iff (hbefore : (takeSteps before).perform ledger = (.ok (), middle))
    (hfailed : failed.act.perform middle = (.error error, after)) (request : Forest.Request)
    (source : ToolkitError) :
    Reported (before ++ failed :: rest) ledger request source ↔
      ∃ forest, failed.asks? middle = some (forest, request) ∧ forest.Reports source request := by
  constructor
  · rintro ⟨done, step, later, reached, forest, hsteps, hdone, hasks, hreports⟩
    rcases hstep : step.act.perform reached with ⟨refused | _, left⟩
    · rcases List.append_eq_append_iff.mp hsteps with
        ⟨between, rfl, hbetween⟩ | ⟨between, rfl, hbetween⟩
      · cases between with
        | nil =>
          rw [List.append_nil, hbefore] at hdone
          cases hdone
          cases hbetween
          exact ⟨forest, hasks, hreports⟩
        | cons other more =>
          obtain ⟨rfl, -⟩ := List.cons.inj hbetween
          exact absurd hdone (not_taken_of_failed hbefore hfailed)
      · cases between with
        | nil =>
          rw [List.append_nil, hdone] at hbefore
          cases hbefore
          cases hbetween
          exact ⟨forest, hasks, hreports⟩
        | cons other more =>
          obtain ⟨rfl, -⟩ := List.cons.inj hbetween
          exact absurd hbefore (not_taken_of_failed hdone hstep)
    · exact absurd hreports (BuildStep.not_reports_of_taken hstep hasks source)
  · rintro ⟨forest, hasks, hreports⟩
    exact ⟨before, failed, rest, middle, forest, rfl, hbefore, hasks, hreports⟩

/-- A run fails with an error of attachment just if the toolkit reports in its course that it does
not support a layout. -/
theorem attachment_iff_reported (hbefore : (takeSteps before).perform ledger = (.ok (), middle))
    (hfailed : failed.act.perform middle = (.error error, after)) :
    (∃ node widgetType strategy, error = .attachment node widgetType strategy) ↔
      ∃ request widgetType strategy, Reported (before ++ failed :: rest) ledger request
        (.unsupportedAttach widgetType strategy) := by
  simp only [reported_iff hbefore hfailed]
  constructor
  · intro hattachment
    obtain ⟨forest, request, widgetType, strategy, hreported⟩ :=
      (BuildStep.fault_of_failed hfailed).attachment_iff.mp hattachment
    exact ⟨request, widgetType, strategy, forest, hreported⟩
  · rintro ⟨request, widgetType, strategy, forest, hreported⟩
    exact (BuildStep.fault_of_failed hfailed).attachment_iff.mpr
      ⟨forest, request, widgetType, strategy, hreported⟩

/-- A run fails with an error of invocation just if in its course a method is called that there is
not, or with invalid arguments. -/
theorem invocation_iff_reported (hbefore : (takeSteps before).perform ledger = (.ok (), middle))
    (hfailed : failed.act.perform middle = (.error error, after)) :
    (∃ node method source, error = .invocation node method source) ↔
      ∃ widget call source,
        Reported (before ++ failed :: rest) ledger (.invoke widget call) source ∧
        ((∃ widgetType method, source = .unknownMethod widgetType method) ∨
          ∃ method message, source = .invalidArguments method message) := by
  simp only [reported_iff hbefore hfailed]
  constructor
  · intro hinvocation
    obtain ⟨forest, widget, call, source, hasks, hreports, hsource⟩ :=
      (BuildStep.fault_of_failed hfailed).invocation_iff.mp hinvocation
    exact ⟨widget, call, source, ⟨forest, hasks, hreports⟩, hsource⟩
  · rintro ⟨widget, call, source, ⟨forest, hasks, hreports⟩, hsource⟩
    exact (BuildStep.fault_of_failed hfailed).invocation_iff.mpr
      ⟨forest, widget, call, source, hasks, hreports, hsource⟩

end Reported

namespace NodeTree

/-- A tree is the whole of another or one of its subtrees. -/
inductive Has : NodeTree → NodeTree → Prop
  | whole (tree : NodeTree) : Has tree tree
  | inside {spec : NodeSpec} {children : List NodeTree} {child inner : NodeTree}
      (hchild : child ∈ children) (hinner : Has child inner) : Has (node spec children) inner

/-- The steps that a node takes itself, before and after those of its children. -/
def ownSteps (config : Config) (seat : Seat) (target : Option WidgetId) :
    NodeTree → List BuildStep
  | node spec children =>
    spec.openingSteps config seat target ++ spec.closingSteps seat (children.map NodeTree.spec)

section Steps

variable {config : Config} {step : BuildStep}

/-- What a node does itself is done in its name, and pages are sought for its children only. -/
theorem node_of_ownSteps {seat : Seat} {target : Option WidgetId} {spec : NodeSpec}
    {children : List NodeTree} (hstep : step ∈ ownSteps config seat target (node spec children)) :
    step.node = spec.id ∧ step.sought ⊆ children.map NodeTree.spec := by
  rcases List.mem_append.mp hstep with hopening | hclosing
  · rw [NodeSpec.openingSteps_eq] at hopening
    rcases List.mem_cons.mp hopening with rfl | hsettling
    · exact ⟨rfl, List.nil_subset _⟩
    · rcases NodeSpec.settlingSteps_cases config seat spec hsettling with
        ⟨deed, rfl⟩ | ⟨name, rfl⟩
      · exact ⟨rfl, List.nil_subset _⟩
      · exact ⟨rfl, List.nil_subset _⟩
  · rcases List.mem_append.mp hclosing with hpages | hhook
    · split at hpages
      · rcases List.mem_cons.mp hpages with rfl | hadd
        · exact ⟨rfl, List.Subset.refl _⟩
        · obtain ⟨child, hchild, rfl⟩ := List.mem_map.mp hadd
          exact ⟨rfl, List.cons_subset.mpr ⟨hchild, List.nil_subset _⟩⟩
      · cases hpages
    · obtain ⟨made, -, rfl⟩ := List.mem_map.mp hhook
      exact ⟨rfl, List.nil_subset _⟩

mutual

/-- Each step of a tree is one that a node of the tree takes itself. -/
theorem has_of_step (seat : Seat) (target : Option WidgetId) : ∀ tree : NodeTree,
    step ∈ tree.steps config seat target →
      ∃ inner own outer, tree.Has inner ∧ step ∈ ownSteps config own outer inner
  | node spec children => by
    intro hstep
    rw [steps, List.mem_append, List.mem_append] at hstep
    rcases hstep with (hopening | hinside) | hclosing
    · exact ⟨_, seat, target, .whole _, List.mem_append_left _ hopening⟩
    · obtain ⟨child, hchild, inner, own, outer, hinner, hown⟩ :=
        has_of_stepAll (seat.skip 1) (some seat.widget) children hinside
      exact ⟨inner, own, outer, .inside hchild hinner, hown⟩
    · exact ⟨_, seat, target, .whole _, List.mem_append_right _ hclosing⟩

private theorem has_of_stepAll (seat : Seat) (target : Option WidgetId) : ∀ trees : List NodeTree,
    step ∈ stepsAll config seat target trees →
      ∃ tree ∈ trees, ∃ inner own outer, tree.Has inner ∧ step ∈ ownSteps config own outer inner
  | [] => nofun
  | tree :: rest => by
    intro hstep
    rw [stepsAll, List.mem_append] at hstep
    rcases hstep with hfirst | hlater
    · exact ⟨tree, List.mem_cons_self, has_of_step seat target tree hfirst⟩
    · obtain ⟨other, hother, hinner⟩ := has_of_stepAll (seat.skip tree.count) target rest hlater
      exact ⟨other, List.mem_cons_of_mem _ hother, hinner⟩

end

end Steps

end NodeTree

/-- Whatever the tree, the settings, the registry, the target and the forest, a build that fails
does so with a step of some node of the tree, after all steps before it have succeeded. The error
names that node, or, where it is a register that finds no page for a child, the first such child. It
is an error of attachment just if the toolkit reported to the build that it does not support a
layout, an error of invocation just if the toolkit reported to it that a method it called is not
there or has invalid arguments, and never one of a schema or of a resolution. -/
theorem Plan.failed_build_names_node {config : Config} {target : Option WidgetId} {tree : NodeTree}
    {site after : Site Forest} {error : BuildError}
    (hfailed : ((Plan.standard config).build target tree).perform site = (.error error, after)) :
    ∃ before failed rest middle spec children seat outer,
      tree.steps config site.ledger.seat target = before ++ failed :: rest ∧
      (takeSteps before).perform site.ledger = (.ok (), middle) ∧
      failed.act.perform middle = (.error error, after.ledger) ∧
      tree.Has (.node spec children) ∧
      failed ∈ NodeTree.ownSteps config seat outer (.node spec children) ∧
      (failed.missing? middle = none ∧ error.node? = some spec.id ∨ ∃ child ∈ children,
        failed.missing? middle = some child.spec ∧ error.node? = some child.spec.id) ∧
      ((∃ node widgetType strategy, error = .attachment node widgetType strategy) ↔
        ∃ request widgetType strategy, Reported (tree.steps config site.ledger.seat target)
          site.ledger request (.unsupportedAttach widgetType strategy)) ∧
      ((∃ node method source, error = .invocation node method source) ↔
        ∃ widget call source, Reported (tree.steps config site.ledger.seat target) site.ledger
            (.invoke widget call) source ∧
          ((∃ widgetType method, source = .unknownMethod widgetType method) ∨
            ∃ method message, source = .invalidArguments method message)) ∧
      (∀ source, error ≠ .schema source) ∧ ∀ scope kind, error ≠ .resolution scope kind := by
  obtain ⟨hdone, -⟩ | ⟨before, failed, rest, middle, shown, hsteps, hbefore, hstep, herror, -⟩ :=
    build_takes_steps config target tree site
  · rw [hfailed] at hdone
    cases hdone
  · rw [hfailed] at herror hstep
    obtain rfl := Except.error.inj herror
    have hmem : failed ∈ tree.steps config site.ledger.seat target := by
      rw [hsteps]
      exact List.mem_append_right _ List.mem_cons_self
    obtain ⟨⟨spec, children⟩, seat, outer, hhas, hown⟩ :=
      tree.has_of_step site.ledger.seat target hmem
    obtain ⟨hnode, hsought⟩ := NodeTree.node_of_ownSteps hown
    have hfault := BuildStep.fault_of_failed hstep
    rw [hsteps]
    refine ⟨before, failed, rest, middle, spec, children, seat, outer, rfl, hbefore, hstep, hhas,
      hown, ?_, attachment_iff_reported hbefore hstep, invocation_iff_reported hbefore hstep,
      ?_, ?_⟩
    · rcases hfault.node? with ⟨hpaged, hnamed⟩ | ⟨child, hmissing, hnamed⟩
      · exact .inl ⟨hpaged, hnode ▸ hnamed⟩
      · have hchild := hsought (List.mem_of_find?_eq_some hmissing)
        obtain ⟨subtree, hsubtree, rfl⟩ := List.mem_map.mp hchild
        exact .inr ⟨subtree, hsubtree, hmissing, hnamed⟩
    · rintro source rfl
      rcases hfault.node? with ⟨-, hnamed⟩ | ⟨child, -, hnamed⟩ <;> cases hnamed
    · rintro scope kind rfl
      rcases hfault.node? with ⟨-, hnamed⟩ | ⟨child, -, hnamed⟩ <;> cases hnamed

/-- The second page of a notebook has no name to be bound under. It is built before it is missed,
and the error names it. -/
theorem Plan.failed_notebook_names_page :
    let page (id : String) (binding : Option String) : NodeTree :=
      .node { id, widgetType := some "Frame", binding } []
    let tree : NodeTree := .node { id := "window", kind := some "root" }
      [.node { id := "tabs", kind := some "RegisterElement" }
        [page "first" (some "first"), page "second" none]]
    let outcome := ((Plan.standard {}).build none tree).perform ⟨Forest.empty, [], []⟩
    ∃ error, outcome.1 = .error error ∧ error.node? = some "second" ∧
      ∃ spec children, tree.Has (.node spec children) ∧
        (error.node? = some spec.id ∨ ∃ child ∈ children, error.node? = some child.spec.id) := by
  intro page tree outcome
  have hsecond : (match outcome.1 with | .error error => error.node? | .ok _ => none) =
      some "second" := by
    subst outcome tree page
    decide +kernel
  rcases houtcome : outcome with ⟨error | ref, after⟩
  · rw [houtcome] at hsecond
    obtain ⟨_, _, _, _, spec, children, _, _, -, -, -, hhas, -, hnamed, -⟩ :=
      failed_build_names_node houtcome
    refine ⟨error, rfl, hsecond, spec, children, hhas, ?_⟩
    rcases hnamed with ⟨-, hown⟩ | ⟨child, hchild, -, hpage⟩
    · exact .inl hown
    · exact .inr ⟨child, hchild, hpage⟩
  · rw [houtcome] at hsecond
    cases hsecond

end WidgetTree
