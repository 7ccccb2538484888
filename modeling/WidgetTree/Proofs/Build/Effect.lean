import WidgetTree.Proofs.Build.Step
import WidgetTree.Proofs.Forest.Construct

namespace WidgetTree

namespace Deed

variable {node : String} {widget : WidgetId} {forest after : Forest}

/-- A call is made of the forest, and its error is described in the name of the node. -/
theorem perform_makeCall (node : String) (widget : WidgetId) (made : Call) (forest : Forest) :
    (makeCall node widget made).perform forest =
      (((forest.invoke widget made).1.mapError (.ofInvoke node made.method)).map fun _ => (),
        (forest.invoke widget made).2) := by
  rw [makeCall, Act.perform_bind, Act.perform_ofOperation]
  rcases forest.invoke widget made with ⟨error | answer, after⟩ <;> rfl

/-- Sharing a state variable is a call in the forest that has one more variable. -/
theorem perform_shareVariable (node : String) (widget : WidgetId) (forest : Forest) :
    (shareVariable.act node widget).perform forest =
      (makeCall node widget (Element.shareVariable (forest.createVariable (.int 0)).1)).perform
        (forest.createVariable (.int 0)).2 := rfl

/-- What a deed makes of the record of its widget, apart from what calls make of it. -/
def mark : Deed → Record → Record
  | attach strategy args, record => { record with attachment := some { strategy, args } }
  | assign name value, record => { record with attributes := record.attributes.insert name value }
  | .call _, record => record
  | shareVariable, record => record

private theorem uncalled_mark (deed : Deed) (record : Record) :
    (deed.mark record).uncalled = deed.mark record.uncalled := by
  cases deed <;> rfl

private theorem parent_mark (deed : Deed) (record : Record) :
    (deed.mark record).parent = record.parent := by
  cases deed <;> rfl

/-- All that a deed can do: it fails and changes nothing, or it marks the record of its widget, or
it makes a call, before which at most a state variable was created. -/
theorem act_cases (deed : Deed) (node : String) (widget : WidgetId) (forest : Forest) :
    (deed.method? = none ∧
      ((∃ error, (deed.act node widget).perform forest = (.error error, forest)) ∨
        (deed.act node widget).perform forest =
          (.ok (), (forest.modify widget deed.mark).log (deed.entry widget)))) ∨
    ∃ made start, deed.method? = some made.method ∧
      deed.entry widget = .invoked widget made.method ∧ (∀ record, deed.mark record = record) ∧
      (start = forest ∨ start = (forest.createVariable (.int 0)).2) ∧
      (deed.act node widget).perform forest = (makeCall node widget made).perform start := by
  cases deed with
  | attach strategy args =>
    refine .inl ⟨rfl, ?_⟩
    rw [act, Act.perform_ofOperation]
    rcases Forest.attach_cases widget strategy args forest with ⟨error, hcase⟩ | hcase
    · rw [hcase]
      exact .inl ⟨_, rfl⟩
    · rw [hcase]
      exact .inr rfl
  | assign name value =>
    refine .inl ⟨rfl, ?_⟩
    rw [act, Act.perform_ofOperation]
    rcases Forest.setAttribute_cases widget name value forest with ⟨error, hcase⟩ | hcase
    · rw [hcase]
      exact .inl ⟨_, rfl⟩
    · rw [hcase]
      exact .inr rfl
  | call made => exact .inr ⟨made, forest, rfl, rfl, fun _ => rfl, .inl rfl, rfl⟩
  | shareVariable =>
    refine .inr ⟨_, _, ?_, ?_, fun _ => rfl, .inr rfl, perform_shareVariable node widget forest⟩
    · rfl
    · rfl

/-- A deed is work on the widget that it is done to. -/
theorem touches (deed : Deed) (node : String) (widget : WidgetId) (forest : Forest) :
    Forest.Touches widget forest ((deed.act node widget).perform forest).2 := by
  rcases deed.act_cases node widget forest with
    ⟨-, ⟨error, hcase⟩ | hcase⟩ | ⟨made, start, -, -, -, hstart, hcase⟩
  · rw [hcase]
    exact .refl widget forest
  · rw [hcase]
    exact Forest.touches_modify_log forest deed.parent_mark _
  · rw [hcase, perform_makeCall]
    refine .trans ?_ (Forest.invoke_spec widget made start).1
    rcases hstart with rfl | rfl
    · exact .refl widget _
    · exact .of_slots widget rfl rfl rfl rfl rfl

/-- What a deed that succeeds makes of the record, apart from what calls make of it, is its mark. -/
theorem uncalled_of_done {deed : Deed}
    (hdone : (deed.act node widget).perform forest = (.ok (), after)) :
    (after.record? widget).map Record.uncalled =
      (forest.record? widget).map fun record => deed.mark record.uncalled := by
  rcases deed.act_cases node widget forest with
    ⟨-, ⟨error, hcase⟩ | hcase⟩ | ⟨made, start, -, -, hmark, hstart, hcase⟩
  · rw [hcase] at hdone
    cases hdone
  · rw [hcase] at hdone
    cases hdone
    rw [Forest.record?_log, Forest.record?_modify, if_pos rfl, Option.map_map]
    exact congrArg (Option.map · _) (funext deed.uncalled_mark)
  · rw [hcase, perform_makeCall] at hdone
    have hkept := (Forest.invoke_spec widget made start).2.1
    rw [(Prod.mk.inj hdone).2] at hkept
    simp only [hmark]
    rcases hstart with rfl | rfl
    · exact hkept
    · exact hkept

/-- A call that succeeds was accepted. -/
theorem history_makeCall {made : Call} {result : Except BuildError Unit}
    (hdone : (makeCall node widget made).perform forest = (result, after)) :
    after.history = forest.history ++
      (if forest.accepts widget made.method then [.invoked widget made.method] else []) ∧
    (result = .ok () → forest.accepts widget made.method = true) := by
  rw [perform_makeCall] at hdone
  obtain ⟨hresult, hafter⟩ := Prod.mk.inj hdone
  refine ⟨hafter ▸ (Forest.invoke_spec widget made forest).2.2, ?_⟩
  rintro rfl
  rcases Forest.invoke_cases widget made forest with ⟨-, error, hcase⟩ | ⟨haccepts, -⟩
  · rw [hcase] at hresult
    cases hresult
  · exact haccepts

/-- The journal grows by the entry of a deed that is done. -/
theorem history_of_done {deed : Deed}
    (hdone : (deed.act node widget).perform forest = (.ok (), after)) :
    after.history = forest.history ++ [deed.entry widget] := by
  rcases deed.act_cases node widget forest with
    ⟨-, ⟨error, hcase⟩ | hcase⟩ | ⟨made, start, -, hentry, -, hstart, hcase⟩
  · rw [hcase] at hdone
    cases hdone
  · rw [hcase] at hdone
    cases hdone
    rfl
  · rw [hcase] at hdone
    obtain ⟨hhistory, haccepts⟩ := history_makeCall hdone
    rw [haccepts rfl, if_pos rfl, ← hentry] at hhistory
    rcases hstart with rfl | rfl
    · exact hhistory
    · exact hhistory

/-- The journal grows by the call that a failing deed made, if it was accepted. -/
theorem history_of_failed {deed : Deed} {error : BuildError}
    (hfailed : (deed.act node widget).perform forest = (.error error, after)) :
    after.history = forest.history ++
      match deed.method? with
      | some method => if forest.accepts widget method then [.invoked widget method] else []
      | none => [] := by
  rcases deed.act_cases node widget forest with
    ⟨hmethod, ⟨error, hcase⟩ | hcase⟩ | ⟨made, start, hmethod, -, -, hstart, hcase⟩
  · rw [hcase] at hfailed
    cases hfailed
    rw [hmethod, List.append_nil]
  · rw [hcase] at hfailed
    cases hfailed
  · rw [hcase] at hfailed
    have hhistory := (history_makeCall hfailed).1
    rw [hmethod]
    rcases hstart with rfl | rfl
    · exact hhistory
    · exact hhistory

end Deed

namespace Ledger

variable {ledger after : Ledger}

/-- Work in the forest of a ledger leaves the rest of the ledger. -/
theorem inForest_spec {α : Type} {act : Act Forest α} {result : Except BuildError α}
    (hact : (inForest act).perform ledger = (result, after)) :
    act.perform ledger.forest = (result, after.forest) ∧
      after = { ledger with forest := after.forest } := by
  obtain ⟨hresult, rfl⟩ := Prod.mk.inj hact
  exact ⟨Prod.ext hresult rfl, rfl⟩

/-- A binding that is accepted gives the name to the element; it was free, or newer elements get
it. -/
theorem bind_eq_ok {ref : ElementRef} {node name : String} {policy : BindingPolicy}
    (hbind : (bind ref node name policy).perform ledger = (.ok (), after)) :
    (policy = .reject → name ∉ ledger.registry.keys) ∧
      after = { ledger with registry := ledger.registry.insert name ref } := by
  rw [bind, Act.perform_mk] at hbind
  cases hname : ledger.registry.get? name with
  | none =>
    rw [hname] at hbind
    cases hbind
    exact ⟨fun _ => Table.get?_eq_none_iff.mp hname, rfl⟩
  | some taken =>
    rw [hname] at hbind
    cases policy with
    | reject => cases hbind
    | overwrite =>
      cases hbind
      exact ⟨nofun, rfl⟩

/-- A binding is refused where the name is taken and stays so, and the element that has it is
named. -/
theorem bind_eq_error {ref : ElementRef} {node name : String} {policy : BindingPolicy}
    {error : BuildError}
    (hbind : (bind ref node name policy).perform ledger = (.error error, after)) :
    after = ledger ∧ policy = .reject ∧ ∃ taken, ledger.registry.get? name = some taken ∧
      error = .configuration node ("binding " ++ Text.backquote name ++
        " is already taken by node " ++ Text.backquote (ledger.nodeOf taken)) := by
  rw [bind, Act.perform_mk] at hbind
  cases hname : ledger.registry.get? name with
  | none =>
    rw [hname] at hbind
    cases hbind
  | some taken =>
    rw [hname] at hbind
    cases policy with
    | reject =>
      cases hbind
      exact ⟨rfl, rfl, taken, rfl, rfl⟩
    | overwrite => cases hbind

end Ledger

namespace BuildStep

variable {ledger after : Ledger}

/-- The step constructs in this seat, if it constructs. -/
def SeatedAt (seat : Seat) : BuildStep → Prop
  | construct own _ _ _ _ => own = seat
  | work .. | bind .. | checkPages .. | addPage .. => True

/-- How many seats the step takes. -/
def seats : BuildStep → Nat
  | construct .. => 1
  | work .. | bind .. | checkPages .. | addPage .. => 0

/-- The element of a construction is made first, and has the widget if that can be constructed. -/
theorem perform_construct (node name : String) (target : Option WidgetId) (args : Fields Value)
    (ledger : Ledger) :
    (construct ledger.seat node (some name) target args).act.perform ledger =
      match Forest.construct name target args ledger.forest with
      | (.ok widget, forest) =>
        (.ok (), { ledger with forest, holders := ledger.holders ++ [⟨node, some widget⟩] })
      | (.error error, forest) =>
        (.error (.toolkit node error),
          { ledger with forest, holders := ledger.holders ++ [⟨node, none⟩] }) := by
  have hintroduced : (Ledger.introduce node).perform ledger =
      (.ok (), { ledger with holders := ledger.holders ++ [⟨node, none⟩] }) := rfl
  rw [act, Act.perform_bind_ok hintroduced, Ledger.perform_construct]
  rcases Forest.construct name target args ledger.forest with ⟨error | widget, after⟩
  · rfl
  · simp [Ledger.seat]

/-- A construction that succeeds plants the widget and seats its element. -/
theorem construct_eq_ok {node : String} {widgetType : Option String} {target : Option WidgetId}
    {args : Fields Value}
    (hstep : (construct ledger.seat node widgetType target args).act.perform ledger =
      (.ok (), after)) :
    ∃ name, widgetType = some name ∧ (∀ outer ∈ target, outer ∈ ledger.forest.live) ∧
      after =
        { forest := ledger.forest.plant name target args
          holders := ledger.holders ++ [⟨node, some ledger.seat.widget⟩]
          registry := ledger.registry } := by
  cases widgetType with
  | none => cases hstep
  | some name =>
    rw [perform_construct] at hstep
    rcases Forest.construct_cases name target args ledger.forest with
      ⟨error, hcase⟩ | ⟨-, hparent, hcase⟩
    · rw [hcase] at hstep
      cases hstep
    · rw [hcase] at hstep
      cases hstep
      exact ⟨name, rfl, hparent, rfl⟩

/-- A construction that fails changes neither forest nor registry, and leaves an element without a
widget. -/
theorem construct_eq_error {seat : Seat} {node : String} {widgetType : Option String}
    {target : Option WidgetId} {args : Fields Value} {error : BuildError}
    (hstep : (construct seat node widgetType target args).act.perform ledger =
      (.error error, after)) :
    after = { ledger with holders := ledger.holders ++ [⟨node, none⟩] } := by
  have hintroduced : (Ledger.introduce node).perform ledger =
      (.ok (), { ledger with holders := ledger.holders ++ [⟨node, none⟩] }) := rfl
  rw [act, Act.perform_bind_ok hintroduced] at hstep
  cases widgetType with
  | none =>
    cases hstep
    rfl
  | some name =>
    rw [Ledger.perform_construct] at hstep
    rcases Forest.construct_cases name target args ledger.forest with
      ⟨error, hcase⟩ | ⟨-, -, hcase⟩
    · rw [hcase] at hstep
      cases hstep
      rfl
    · rw [hcase] at hstep
      cases hstep

/-- A page is added by a call to the notebook, if it is found. -/
theorem perform_addPage (register : String) (widget : WidgetId) (child : NodeSpec)
    (ledger : Ledger) :
    (addPage register widget child).act.perform ledger =
      match ledger.page register child with
      | .ok page =>
        (Ledger.inForest (Deed.makeCall register widget (Element.addTab child.id page))).perform
          ledger
      | .error error => (.error error, ledger) := by
  rw [act, Act.perform_bind_ok (Act.perform_get ledger)]
  cases hpage : ledger.page register child with
  | error error => exact Act.perform_bind_error (by rw [Act.perform_ofExcept]) _
  | ok page => exact Act.perform_bind_ok (by rw [Act.perform_ofExcept]) _

/-- All work on a widget after its construction, done or not, leaves all but the forest. -/
theorem work_spec {node : String} {widget : WidgetId} {deed : Deed}
    {result : Except BuildError Unit}
    (hstep : (work node widget deed).act.perform ledger = (result, after)) :
    (deed.act node widget).perform ledger.forest = (result, after.forest) ∧
      Forest.Touches widget ledger.forest after.forest ∧
      after = { ledger with forest := after.forest } := by
  obtain ⟨hdeed, hafter⟩ := Ledger.inForest_spec hstep
  have htouches := deed.touches node widget ledger.forest
  rw [hdeed] at htouches
  exact ⟨hdeed, htouches, hafter⟩

/-- Adding a page is work on the notebook, which leaves all of its record that is not the doing of
calls. -/
theorem addPage_spec {register : String} {widget : WidgetId} {child : NodeSpec}
    {result : Except BuildError Unit}
    (hstep : (addPage register widget child).act.perform ledger = (result, after)) :
    Forest.Touches widget ledger.forest after.forest ∧
      (after.forest.record? widget).map Record.uncalled =
        (ledger.forest.record? widget).map Record.uncalled ∧
      after = { ledger with forest := after.forest } := by
  rw [perform_addPage] at hstep
  cases hpage : ledger.page register child with
  | error error =>
    rw [hpage] at hstep
    cases hstep
    exact ⟨.refl widget _, rfl, rfl⟩
  | ok page =>
    obtain ⟨htouches, hkept, -⟩ :=
      Forest.invoke_spec widget (Element.addTab child.id page) ledger.forest
    rw [hpage] at hstep
    obtain ⟨hcall, hafter⟩ := Ledger.inForest_spec hstep
    rw [Deed.perform_makeCall] at hcall
    rw [(Prod.mk.inj hcall).2] at htouches hkept
    exact ⟨htouches, hkept, hafter⟩

/-- A look at pages leaves everything as it is. -/
theorem checkPages_spec {register : String} {children : List NodeSpec}
    {result : Except BuildError Unit}
    (hstep : (checkPages register children).act.perform ledger = (result, after)) :
    after = ledger ∧ result = ledger.checkPages register children := by
  cases hstep
  exact ⟨rfl, rfl⟩

/-- Only constructions make elements. -/
theorem holders_of_unseated {step : BuildStep} {result : Except BuildError Unit}
    (hunseated : step.seats = 0) (hstep : step.act.perform ledger = (result, after)) :
    after.holders = ledger.holders := by
  cases step with
  | construct => cases hunseated
  | work node widget deed => rw [(work_spec hstep).2.2]
  | bind seat node name policy =>
    cases result with
    | error error => rw [(Ledger.bind_eq_error hstep).1]
    | ok _ => rw [(Ledger.bind_eq_ok hstep).2]
  | checkPages register children => rw [(checkPages_spec hstep).1]
  | addPage register widget child => rw [(addPage_spec hstep).2.2]

/-- Elements that were made before a step are known as before. -/
theorem holders_prefix {step : BuildStep} {result : Except BuildError Unit}
    (hseated : step.SeatedAt ledger.seat) (hstep : step.act.perform ledger = (result, after)) :
    ledger.holders <+: after.holders := by
  cases step with
  | construct seat node widgetType target args =>
    obtain rfl := hseated
    cases result with
    | error error =>
      rw [construct_eq_error hstep]
      exact List.prefix_append _ _
    | ok _ =>
      obtain ⟨name, -, -, rfl⟩ := construct_eq_ok hstep
      exact List.prefix_append _ _
  | work | bind | checkPages | addPage =>
    have hkept := holders_of_unseated rfl hstep
    exact hkept ▸ List.prefix_refl _

/-- A step that succeeds takes the seats that it is said to take. -/
theorem seat_of_taken {step : BuildStep} (hseated : step.SeatedAt ledger.seat)
    (hstep : step.act.perform ledger = (.ok (), after)) :
    after.seat = ledger.seat.skip step.seats := by
  cases step with
  | construct seat node widgetType target args =>
    obtain rfl := hseated
    obtain ⟨name, -, -, rfl⟩ := construct_eq_ok hstep
    simp [Ledger.seat, Seat.skip, seats, Forest.next]
  | work node widget deed =>
    obtain ⟨-, htouches, hafter⟩ := work_spec hstep
    rw [hafter, Ledger.seat, Forest.next, htouches.constructed]
    rfl
  | bind seat node name policy =>
    obtain ⟨-, rfl⟩ := Ledger.bind_eq_ok hstep
    rfl
  | checkPages register children =>
    obtain ⟨rfl, -⟩ := checkPages_spec hstep
    rfl
  | addPage register widget child =>
    obtain ⟨htouches, -, hafter⟩ := addPage_spec hstep
    rw [hafter, Ledger.seat, Forest.next, htouches.constructed]
    rfl

/-- A step that succeeds is journalled by its entries. -/
theorem history_of_taken {step : BuildStep} (hseated : step.SeatedAt ledger.seat)
    (hstep : step.act.perform ledger = (.ok (), after)) :
    after.forest.history = ledger.forest.history ++ step.entries := by
  cases step with
  | construct seat node widgetType target args =>
    obtain rfl := hseated
    obtain ⟨name, rfl, -, rfl⟩ := construct_eq_ok hstep
    simp [entries, Ledger.seat]
  | work node widget deed =>
    obtain ⟨hdeed, -, -⟩ := work_spec hstep
    exact Deed.history_of_done hdeed
  | bind seat node name policy =>
    obtain ⟨-, rfl⟩ := Ledger.bind_eq_ok hstep
    simp [entries]
  | checkPages register children =>
    obtain ⟨rfl, -⟩ := checkPages_spec hstep
    simp [entries]
  | addPage register widget child =>
    rw [perform_addPage] at hstep
    cases hpage : ledger.page register child with
    | error error =>
      rw [hpage] at hstep
      cases hstep
    | ok page =>
      rw [hpage] at hstep
      obtain ⟨hcall, -⟩ := Ledger.inForest_spec hstep
      obtain ⟨hhistory, haccepts⟩ := Deed.history_makeCall hcall
      rwa [haccepts rfl] at hhistory

/-- A step that fails is journalled if it made a call that was accepted. -/
theorem history_of_refused {step : BuildStep} {error : BuildError}
    (hstep : step.act.perform ledger = (.error error, after)) :
    after.forest.history = ledger.forest.history ++ step.entriesOnFailure ledger := by
  cases step with
  | construct seat node widgetType target args =>
    rw [construct_eq_error hstep]
    simp [entriesOnFailure, call?]
  | work node widget deed =>
    obtain ⟨hdeed, -, -⟩ := work_spec hstep
    rw [Deed.history_of_failed hdeed, entriesOnFailure, call?]
    cases deed.method? <;> rfl
  | bind seat node name policy =>
    obtain ⟨rfl, -⟩ := Ledger.bind_eq_error hstep
    simp [entriesOnFailure, call?]
  | checkPages register children =>
    obtain ⟨rfl, -⟩ := checkPages_spec hstep
    simp [entriesOnFailure, call?]
  | addPage register widget child =>
    rw [perform_addPage] at hstep
    rw [entriesOnFailure, call?]
    cases hpage : ledger.page register child with
    | error error =>
      rw [hpage] at hstep
      cases hstep
      simp
    | ok page =>
      rw [hpage] at hstep
      obtain ⟨hcall, -⟩ := Ledger.inForest_spec hstep
      exact (Deed.history_makeCall hcall).1

end BuildStep

end WidgetTree
