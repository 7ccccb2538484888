import Mathlib.Data.List.Induction
import WidgetTree.Proofs.Build.Place

namespace WidgetTree

open Text

/-- An element that is bound: the seat and the id of its node, and the name. -/
structure Bond where
  seat : Seat
  node : String
  name : String

/-- The entry of a registry for the binding. -/
def Bond.entry (bond : Bond) : String × ElementRef := (bond.name, bond.seat.ref)

/-- The binding that the step makes, if it makes one. -/
def BuildStep.bond? : BuildStep → Option Bond
  | bind seat node name _ => some ⟨seat, node, name⟩
  | construct .. | work .. | checkPages .. | addPage .. => none

/-- The bindings that steps make, in order. -/
def bondsOf (steps : List BuildStep) : List Bond := steps.filterMap BuildStep.bond?

/-- The bindings of two runs of steps are those of the one and then those of the other. -/
theorem bondsOf_append (first second : List BuildStep) :
    bondsOf (first ++ second) = bondsOf first ++ bondsOf second := List.filterMap_append

/-- Steps that bind nothing have no bindings. -/
theorem bondsOf_eq_nil {steps : List BuildStep} (hunbound : ∀ step ∈ steps, step.bond? = none) :
    bondsOf steps = [] := List.filterMap_eq_nil_iff.mpr hunbound

/-- The steps that are taken with success: all up to the first that fails. -/
def stepsTaken : List BuildStep → Ledger → List BuildStep
  | [], _ => []
  | step :: rest, ledger =>
    match step.act.perform ledger with
    | (.ok (), after) => step :: stepsTaken rest after
    | (.error _, _) => []

section Taken

variable {ledger middle after : Ledger} {steps first : List BuildStep}

/-- Behind steps that were all taken the next ones begin. -/
theorem stepsTaken_append (hfirst : (takeSteps first).perform ledger = (.ok (), middle))
    (second : List BuildStep) :
    stepsTaken (first ++ second) ledger = first ++ stepsTaken second middle := by
  induction first generalizing ledger with
  | nil =>
    cases hfirst
    rfl
  | cons step rest ih =>
    obtain ⟨next, hstep, hrest⟩ := takeSteps_cons_eq_ok_iff.mp hfirst
    rw [List.cons_append, stepsTaken, hstep]
    dsimp only
    rw [ih hrest, List.cons_append]

/-- Of a run that succeeds all steps are taken. -/
theorem stepsTaken_of_ok (hrun : (takeSteps steps).perform ledger = (.ok (), after)) :
    stepsTaken steps ledger = steps := by
  have htaken := stepsTaken_append hrun []
  rwa [stepsTaken, List.append_nil] at htaken

/-- Either all steps are taken, or the step behind those that are taken fails. -/
theorem takeSteps_cases {result : Except BuildError Unit}
    (hrun : (takeSteps steps).perform ledger = (result, after)) :
    (stepsTaken steps ledger = steps ∧ result = .ok ()) ∨
      ∃ failed rest middle error, steps = stepsTaken steps ledger ++ failed :: rest ∧
        (takeSteps (stepsTaken steps ledger)).perform ledger = (.ok (), middle) ∧
        failed.act.perform middle = (.error error, after) ∧ result = .error error := by
  cases result with
  | ok _ => exact .inl ⟨stepsTaken_of_ok hrun, rfl⟩
  | error error =>
    obtain ⟨before, failed, rest, middle, rfl, hbefore, hfailed⟩ := takeSteps_eq_error_iff.mp hrun
    have htaken : stepsTaken (before ++ failed :: rest) ledger = before := by
      rw [stepsTaken_append hbefore, stepsTaken, hfailed, List.append_nil]
    rw [htaken]
    exact .inr ⟨failed, rest, middle, error, rfl, hbefore, hfailed, rfl⟩

end Taken

/-- All bindings follow one policy, and each comes behind the construction for its element. -/
def Grounded (policy : BindingPolicy) (steps : List BuildStep) : Prop :=
  ∀ before seat node name own rest, steps = before ++ .bind seat node name own :: rest →
    own = policy ∧
      ∃ widgetType target args, .construct seat node widgetType target args ∈ before

namespace Grounded

variable {policy : BindingPolicy} {steps first second : List BuildStep}

/-- Steps that bind nothing are grounded. -/
theorem of_unbound (hunbound : ∀ step ∈ steps, step.bond? = none) : Grounded policy steps := by
  rintro before seat node name own rest rfl
  have hbond := hunbound (.bind seat node name own) (by simp)
  cases hbond

/-- Two runs of steps are grounded together if each of them is. -/
theorem append (hfirst : Grounded policy first) (hsecond : Grounded policy second) :
    Grounded policy (first ++ second) := by
  intro before seat node name own rest hsplit
  rcases List.append_eq_append_iff.mp hsplit with
    ⟨between, rfl, hbehind⟩ | ⟨between, hahead, hbehind⟩
  · obtain ⟨hpolicy, widgetType, target, args, hmem⟩ :=
      hsecond between seat node name own rest hbehind
    exact ⟨hpolicy, widgetType, target, args, List.mem_append_right _ hmem⟩
  · cases between with
    | nil =>
      -- A binding that opens the second list would have no construction before it there.
      obtain ⟨-, widgetType, target, args, hmem⟩ :=
        hsecond [] seat node name own rest hbehind.symm
      cases hmem
    | cons step between =>
      obtain ⟨rfl, -⟩ := List.cons.inj hbehind
      exact hfirst before seat node name own between hahead

/-- Whatever begins a grounded run of steps is grounded. -/
theorem of_append (hgrounded : Grounded policy (first ++ second)) : Grounded policy first := by
  rintro before seat node name own rest rfl
  exact hgrounded before seat node name own (rest ++ second) (by simp)

end Grounded

namespace BuildStep

variable {ledger after : Ledger} {step : BuildStep}

/-- Only bindings change the registry. -/
theorem registry_of_unbound {result : Except BuildError Unit} (hunbound : step.bond? = none)
    (hseated : step.SeatedAt ledger.seat) (hstep : step.act.perform ledger = (result, after)) :
    after.registry = ledger.registry := by
  cases step with
  | construct seat node widgetType target args =>
    obtain rfl := hseated
    cases result with
    | error error => rw [construct_eq_error hstep]
    | ok _ =>
      obtain ⟨name, -, -, rfl⟩ := construct_eq_ok hstep
      rfl
  | work node widget deed => rw [(work_spec hstep).2.2]
  | bind seat node name policy => cases hunbound
  | checkPages register children => rw [(checkPages_spec hstep).1]
  | addPage register widget child => rw [(addPage_spec hstep).2.2]

private theorem registry_of_refused {error : BuildError} (hseated : step.SeatedAt ledger.seat)
    (hstep : step.act.perform ledger = (.error error, after)) :
    after.registry = ledger.registry := by
  cases hbond : step.bond? with
  | none => exact registry_of_unbound hbond hseated hstep
  | some bond =>
    cases step with
    | bind seat node name policy => rw [(Ledger.bind_eq_error hstep).1]
    | construct | work | checkPages | addPage => cases hbond

end BuildStep

/-- Once a construction was taken, its element is known to have the widget, and the journal reports
it. -/
theorem constructed_of_takeSteps {ledger after : Ledger} {steps : List BuildStep} {seat : Seat}
    {node : String} {widgetType : Option String} {target : Option WidgetId} {args : Fields Value}
    (hseated : Seated ledger.seat steps)
    (hrun : (takeSteps steps).perform ledger = (.ok (), after))
    (hmem : .construct seat node widgetType target args ∈ steps) :
    after.holders[seat.ref.index]? = some ⟨node, some seat.widget⟩ ∧
      ∃ name, .constructed seat.widget name ∈ after.forest.history := by
  have hhistory := history_of_takeSteps hseated hrun
  obtain ⟨before, rest, rfl⟩ := List.append_of_mem hmem
  obtain ⟨hbefore, ⟨hown, hrest⟩⟩ := seated_append.mp hseated
  obtain ⟨middle, hfirst, hlater⟩ := takeSteps_append_eq_ok_iff.mp hrun
  obtain ⟨planted, hstep, hbehind⟩ := takeSteps_cons_eq_ok_iff.mp hlater
  rw [← seat_of_takeSteps hbefore hfirst] at hown hrest
  have hseat := BuildStep.seat_of_taken hown hstep
  obtain rfl : seat = middle.seat := hown
  obtain ⟨name, rfl, -, rfl⟩ := BuildStep.construct_eq_ok hstep
  obtain ⟨more, hmore⟩ := holders_prefix_of_takeSteps (hseat ▸ hrest) hbehind
  constructor
  · rw [← hmore, List.append_assoc]
    simp [Ledger.seat]
  · refine ⟨name, ?_⟩
    rw [hhistory]
    simp [BuildStep.entries]

/-- A ledger in which these bindings were accepted, in order, and no others. -/
structure Ledger.Holds (policy : BindingPolicy) (bonds : List Bond) (ledger : Ledger) : Prop where
  registry : ledger.registry = Table.ofPairs (bonds.map Bond.entry)
  distinct : policy = .reject → (bonds.map Bond.name).Nodup
  housed : ∀ bond ∈ bonds,
    ledger.holders[bond.seat.ref.index]? = some ⟨bond.node, some bond.seat.widget⟩
  constructed : ∀ bond ∈ bonds,
    ∃ widgetType, .constructed bond.seat.widget widgetType ∈ ledger.forest.history

/-- The names in the entries of bindings are the names of the bindings. -/
theorem keys_entries (bonds : List Bond) :
    Table.keys (bonds.map Bond.entry) = bonds.map Bond.name := by
  simp [Table.keys, Bond.entry]

/-- Of the bindings that are made under a name the last one counts. -/
theorem get?_insertAll_last (registry : Registry) {earlier later : List Bond} {bond : Bond}
    (hlast : bond.name ∉ later.map Bond.name) :
    (registry.insertAll ((earlier ++ bond :: later).map Bond.entry)).get? bond.name =
      some bond.seat.ref := by
  have hlater : Table.get? (later.map Bond.entry).reverse bond.name = none := by
    rw [Table.get?_eq_none_iff, ← List.map_reverse, keys_entries, List.map_reverse,
      List.mem_reverse]
    exact hlast
  rw [Table.get?_insertAll, List.map_append, List.map_cons, List.reverse_append,
    List.reverse_cons, Table.get?_append, Table.get?_append, hlater]
  simp [Table.get?, Bond.entry]

namespace Ledger.Holds

variable {policy : BindingPolicy} {bonds : List Bond} {ledger after : Ledger}

/-- What only adds elements and entries of the journal loses no binding. -/
theorem mono (hholds : ledger.Holds policy bonds) (hregistry : after.registry = ledger.registry)
    (hholders : ledger.holders <+: after.holders)
    (hhistory : ledger.forest.history <+: after.forest.history) : after.Holds policy bonds where
  registry := by rw [hregistry, hholds.registry]
  distinct := hholds.distinct
  housed bond hbond := by
    obtain ⟨hlt, hget⟩ := List.getElem?_eq_some_iff.mp (hholds.housed bond hbond)
    obtain ⟨more, hmore⟩ := hholders
    rw [← hmore, List.getElem?_append_left hlt]
    exact hholds.housed bond hbond
  constructed bond hbond := by
    obtain ⟨widgetType, hmem⟩ := hholds.constructed bond hbond
    exact ⟨widgetType, hhistory.subset hmem⟩

private theorem mem_keys_iff (hholds : ledger.Holds policy bonds) {name : String} :
    name ∈ ledger.registry.keys ↔ name ∈ bonds.map Bond.name := by
  rw [hholds.registry, Table.keys_ofPairs, keys_entries, List.mem_eraseDups]

/-- Where no name is bound twice, the registry is the list of the bindings. -/
theorem registry_eq (hholds : ledger.Holds .reject bonds) :
    ledger.registry = bonds.map Bond.entry := by
  rw [hholds.registry]
  refine Table.ofPairs_eq_self ?_
  rw [Table.Distinct, keys_entries]
  exact hholds.distinct rfl

/-- A name stands for the element of the last binding of it. -/
theorem get?_last {earlier later : List Bond} {bond : Bond}
    (hholds : ledger.Holds policy (earlier ++ bond :: later))
    (hlast : bond.name ∉ later.map Bond.name) :
    ledger.registry.get? bond.name = some bond.seat.ref := by
  rw [hholds.registry, Table.ofPairs]
  exact get?_insertAll_last [] hlast

private theorem bind {bond : Bond} (hholds : ledger.Holds policy bonds)
    (hhoused : ledger.holders[bond.seat.ref.index]? = some ⟨bond.node, some bond.seat.widget⟩)
    (hconstructed : ∃ widgetType,
      .constructed bond.seat.widget widgetType ∈ ledger.forest.history)
    (hstep : (BuildStep.bind bond.seat bond.node bond.name policy).act.perform ledger =
      (.ok (), after)) : after.Holds policy (bonds ++ [bond]) := by
  obtain ⟨hfree, rfl⟩ := Ledger.bind_eq_ok hstep
  refine
    { registry := ?_
      distinct := ?_
      housed := ?_
      constructed := ?_ }
  · dsimp only
    rw [hholds.registry, List.map_append, Table.ofPairs, Table.ofPairs, Table.insertAll_append]
    rfl
  · intro hreject
    have hnew := hfree hreject
    rw [hholds.mem_keys_iff] at hnew
    rw [List.map_append, List.map_singleton, ← List.concat_eq_append, List.nodup_concat]
    exact ⟨hnew, hholds.distinct hreject⟩
  · intro other hother
    rcases List.mem_append.mp hother with hold | hnew
    · exact hholds.housed other hold
    · obtain rfl := List.mem_singleton.mp hnew
      exact hhoused
  · intro other hother
    rcases List.mem_append.mp hother with hold | hnew
    · exact hholds.constructed other hold
    · obtain rfl := List.mem_singleton.mp hnew
      exact hconstructed

private theorem unbound {step : BuildStep} {result : Except BuildError Unit}
    (hholds : ledger.Holds policy bonds) (hseated : step.SeatedAt ledger.seat)
    (hregistry : after.registry = ledger.registry)
    (hstep : step.act.perform ledger = (result, after)) : after.Holds policy bonds := by
  refine hholds.mono hregistry (BuildStep.holders_prefix hseated hstep) ?_
  cases result with
  | error error =>
    rw [BuildStep.history_of_refused hstep]
    exact List.prefix_append _ _
  | ok _ =>
    rw [BuildStep.history_of_taken hseated hstep]
    exact List.prefix_append _ _

/-- Steps that are all taken have their bindings accepted, in order. The induction is on the last
step, since a binding rests on what was constructed before it. -/
theorem takeSteps {steps : List BuildStep} (hholds : ledger.Holds policy bonds)
    (hseated : Seated ledger.seat steps) (hgrounded : Grounded policy steps)
    (hrun : (takeSteps steps).perform ledger = (.ok (), after)) :
    after.Holds policy (bonds ++ bondsOf steps) := by
  induction steps using List.reverseRecOn generalizing after with
  | nil =>
    cases hrun
    rw [bondsOf, List.filterMap_nil, List.append_nil]
    exact hholds
  | append_singleton before last ih =>
    obtain ⟨middle, hbefore, hlast⟩ := takeSteps_append_eq_ok_iff.mp hrun
    obtain ⟨hahead, hown, -⟩ := seated_append.mp hseated
    have hmiddle := ih hahead hgrounded.of_append hbefore
    rw [takeSteps_singleton] at hlast
    rw [← seat_of_takeSteps hahead hbefore] at hown
    rw [bondsOf_append, ← List.append_assoc]
    cases hbond : last.bond? with
    | none =>
      have hnone : bondsOf [last] = [] := bondsOf_eq_nil (by simpa using hbond)
      rw [hnone, List.append_nil]
      exact hmiddle.unbound hown (BuildStep.registry_of_unbound hbond hown hlast) hlast
    | some bond =>
      cases last with
      | construct | work | checkPages | addPage => cases hbond
      | bind seat node name own =>
        cases hbond
        obtain ⟨rfl, widgetType, target, args, hconstruct⟩ :=
          hgrounded before seat node name own [] rfl
        obtain ⟨hhoused, hconstructed⟩ := constructed_of_takeSteps hahead hbefore hconstruct
        exact hmiddle.bind hhoused hconstructed hlast

/-- The bindings of the steps that were taken are accepted, whether or not all were taken. -/
theorem stepsTaken {steps : List BuildStep} {result : Except BuildError Unit}
    (hholds : ledger.Holds policy bonds) (hseated : Seated ledger.seat steps)
    (hgrounded : Grounded policy steps)
    (hrun : (WidgetTree.takeSteps steps).perform ledger = (result, after)) :
    after.Holds policy (bonds ++ bondsOf (WidgetTree.stepsTaken steps ledger)) := by
  rcases takeSteps_cases hrun with
    ⟨htaken, rfl⟩ | ⟨failed, rest, middle, error, hsteps, hbefore, hfailed, rfl⟩
  · rw [htaken]
    exact hholds.takeSteps hseated hgrounded hrun
  · rw [hsteps] at hseated hgrounded
    obtain ⟨hahead, hown, -⟩ := seated_append.mp hseated
    have hmiddle := hholds.takeSteps hahead hgrounded.of_append hbefore
    rw [← seat_of_takeSteps hahead hbefore] at hown
    exact hmiddle.unbound hown (BuildStep.registry_of_refused hown hfailed) hfailed

/-- Where names are refused, a binding under a name that is taken fails, and the node that holds the
name is named. -/
theorem bind_refused {holder : Bond} (hholds : ledger.Holds .reject bonds)
    (hholder : holder ∈ bonds) (seat : Seat) (node : String) :
    (BuildStep.bind seat node holder.name .reject).act.perform ledger =
      (.error (.configuration node ("binding " ++ backquote holder.name ++
        " is already taken by node " ++ backquote holder.node)), ledger) := by
  have hdistinct : Table.Distinct (bonds.map Bond.entry) := by
    rw [Table.Distinct, keys_entries]
    exact hholds.distinct rfl
  have htaken : ledger.registry.get? holder.name = some holder.seat.ref := by
    rw [hholds.registry_eq]
    exact hdistinct.get?_of_mem (List.mem_map_of_mem hholder)
  have hnode : ledger.nodeOf holder.seat.ref = holder.node := by
    rw [nodeOf, hholds.housed holder hholder]
    rfl
  rw [BuildStep.act, Ledger.bind, Act.perform_mk, htaken]
  dsimp only
  rw [hnode]

/-- A binding under a name that is not taken is accepted, and so is any where newer elements get the
name. -/
theorem bind_accepted {name : String} (hholds : ledger.Holds policy bonds)
    (hfree : policy = .reject → name ∉ bonds.map Bond.name) (seat : Seat) (node : String) :
    (BuildStep.bind seat node name policy).act.perform ledger =
      (.ok (), { ledger with registry := ledger.registry.insert name seat.ref }) := by
  rw [BuildStep.act, Ledger.bind, Act.perform_mk]
  cases policy with
  | overwrite => cases ledger.registry.get? name <;> rfl
  | reject =>
    have hnone : ledger.registry.get? name = none := by
      rw [Table.get?_eq_none_iff, hholds.mem_keys_iff]
      exact hfree rfl
    rw [hnone]

end Ledger.Holds

end WidgetTree
