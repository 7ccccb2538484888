import WidgetTree.Proofs.Build.Effect

namespace WidgetTree

namespace Seat

@[simp] theorem skip_zero (seat : Seat) : seat.skip 0 = seat := rfl

/-- Seats are passed by in any portions. -/
@[simp] theorem skip_skip (seat : Seat) (first second : Nat) :
    (seat.skip first).skip second = seat.skip (first + second) := by
  simp [skip, Nat.add_assoc]

end Seat

/-- Constructions stand in consecutive seats from this one on. -/
def Seated : Seat → List BuildStep → Prop
  | _, [] => True
  | seat, step :: rest => step.SeatedAt seat ∧ Seated (seat.skip step.seats) rest

/-- How many seats steps take together. -/
def seatsOf : List BuildStep → Nat
  | [] => 0
  | step :: rest => step.seats + seatsOf rest

private theorem seatsOf_append (first second : List BuildStep) :
    seatsOf (first ++ second) = seatsOf first + seatsOf second := by
  induction first with
  | nil => simp [seatsOf]
  | cons step rest ih => simp [seatsOf, ih, Nat.add_assoc]

/-- Two runs of steps stand in consecutive seats if the second begins in the seat behind the first.
-/
theorem seated_append {seat : Seat} {first second : List BuildStep} :
    Seated seat (first ++ second) ↔
      Seated seat first ∧ Seated (seat.skip (seatsOf first)) second := by
  induction first generalizing seat with
  | nil => simp [Seated, seatsOf]
  | cons step rest ih => simp [Seated, seatsOf, ih, and_assoc]

section Runs

variable {ledger after : Ledger} {steps first second : List BuildStep}

/-- Steps all succeed if the first does and then the others do. -/
theorem takeSteps_cons_eq_ok_iff {step : BuildStep} :
    (takeSteps (step :: steps)).perform ledger = (.ok (), after) ↔
      ∃ middle, step.act.perform ledger = (.ok (), middle) ∧
        (takeSteps steps).perform middle = (.ok (), after) := by
  rw [takeSteps, Act.perform_bind_eq_ok_iff]
  constructor
  · rintro ⟨_, middle, hboth⟩
    exact ⟨middle, hboth⟩
  · rintro ⟨middle, hboth⟩
    exact ⟨(), middle, hboth⟩

/-- Two runs of steps succeed if the first does and then the second does. -/
theorem takeSteps_append_eq_ok_iff :
    (takeSteps (first ++ second)).perform ledger = (.ok (), after) ↔
      ∃ middle, (takeSteps first).perform ledger = (.ok (), middle) ∧
        (takeSteps second).perform middle = (.ok (), after) := by
  rw [takeSteps_append, Act.perform_bind_eq_ok_iff]
  constructor
  · rintro ⟨_, middle, hboth⟩
    exact ⟨middle, hboth⟩
  · rintro ⟨middle, hboth⟩
    exact ⟨(), middle, hboth⟩

/-- A run fails just where its first step fails after all steps before it have succeeded. -/
theorem takeSteps_eq_error_iff {error : BuildError} :
    (takeSteps steps).perform ledger = (.error error, after) ↔
      ∃ before failed rest middle, steps = before ++ failed :: rest ∧
        (takeSteps before).perform ledger = (.ok (), middle) ∧
        failed.act.perform middle = (.error error, after) := by
  constructor
  · intro hrun
    induction steps generalizing ledger with
    | nil => cases hrun
    | cons step rest ih =>
      rw [takeSteps] at hrun
      rcases hstep : step.act.perform ledger with ⟨outcome | _, middle⟩
      · rw [Act.perform_bind_error hstep] at hrun
        cases hrun
        exact ⟨[], step, rest, ledger, rfl, rfl, hstep⟩
      · rw [Act.perform_bind_ok hstep] at hrun
        obtain ⟨before, failed, behind, last, rfl, hbefore, hfailed⟩ := ih hrun
        exact ⟨step :: before, failed, behind, last, rfl,
          takeSteps_cons_eq_ok_iff.mpr ⟨middle, hstep, hbefore⟩, hfailed⟩
  · rintro ⟨before, failed, rest, middle, rfl, hbefore, hfailed⟩
    rw [takeSteps_append, Act.perform_bind_ok hbefore, takeSteps, Act.perform_bind_error hfailed]

/-- Steps that all succeed take the seats that they are said to take. -/
theorem seat_of_takeSteps (hseated : Seated ledger.seat steps)
    (hrun : (takeSteps steps).perform ledger = (.ok (), after)) :
    after.seat = ledger.seat.skip (seatsOf steps) := by
  induction steps generalizing ledger with
  | nil =>
    cases hrun
    rfl
  | cons step rest ih =>
    obtain ⟨middle, hstep, hrest⟩ := takeSteps_cons_eq_ok_iff.mp hrun
    have hseat := BuildStep.seat_of_taken hseated.1 hstep
    rw [ih (hseat ▸ hseated.2) hrest, hseat, Seat.skip_skip, seatsOf]

/-- Steps that all succeed are journalled by their entries, in order. -/
theorem history_of_takeSteps (hseated : Seated ledger.seat steps)
    (hrun : (takeSteps steps).perform ledger = (.ok (), after)) :
    after.forest.history = ledger.forest.history ++ steps.flatMap BuildStep.entries := by
  induction steps generalizing ledger with
  | nil =>
    cases hrun
    exact (List.append_nil _).symm
  | cons step rest ih =>
    obtain ⟨middle, hstep, hrest⟩ := takeSteps_cons_eq_ok_iff.mp hrun
    have hseat := BuildStep.seat_of_taken hseated.1 hstep
    rw [ih (hseat ▸ hseated.2) hrest, BuildStep.history_of_taken hseated.1 hstep,
      List.flatMap_cons, List.append_assoc]

/-- What each of the steps keeps wherever it is taken, a run keeps up to wherever it fails. -/
theorem kept_of_takeSteps (kept : Ledger → Prop) {result : Except BuildError Unit}
    (hkeeps : ∀ step ∈ steps, ∀ before outcome left, step.SeatedAt before.seat → kept before →
      step.act.perform before = (outcome, left) → kept left)
    (hseated : Seated ledger.seat steps) (hkept : kept ledger)
    (hrun : (takeSteps steps).perform ledger = (result, after)) : kept after := by
  induction steps generalizing ledger with
  | nil =>
    cases hrun
    exact hkept
  | cons step rest ih =>
    have hfirst := hkeeps step List.mem_cons_self ledger
    rw [takeSteps] at hrun
    rcases hstep : step.act.perform ledger with ⟨error | _, middle⟩
    · rw [Act.perform_bind_error hstep] at hrun
      cases hrun
      exact hfirst _ _ hseated.1 hkept hstep
    · rw [Act.perform_bind_ok hstep] at hrun
      have hseat := BuildStep.seat_of_taken hseated.1 hstep
      exact ih (fun other hother => hkeeps other (List.mem_cons_of_mem _ hother))
        (hseat ▸ hseated.2) (hfirst _ _ hseated.1 hkept hstep) hrun

/-- Elements that were made before a run are known as before, whether or not it succeeds. -/
theorem holders_prefix_of_takeSteps {result : Except BuildError Unit}
    (hseated : Seated ledger.seat steps)
    (hrun : (takeSteps steps).perform ledger = (result, after)) :
    ledger.holders <+: after.holders := by
  refine kept_of_takeSteps (ledger.holders <+: ·.holders) ?_ hseated (List.prefix_refl _) hrun
  intro step _ before outcome left hseat hkept hstep
  exact hkept.trans (BuildStep.holders_prefix hseat hstep)

private theorem holders_of_takeSteps (hunseated : ∀ step ∈ steps, step.seats = 0)
    (hrun : (takeSteps steps).perform ledger = (.ok (), after)) :
    after.holders = ledger.holders := by
  induction steps generalizing ledger with
  | nil =>
    cases hrun
    rfl
  | cons step rest ih =>
    obtain ⟨middle, hstep, hrest⟩ := takeSteps_cons_eq_ok_iff.mp hrun
    rw [ih (fun other hother => hunseated other (List.mem_cons_of_mem _ hother)) hrest]
    exact BuildStep.holders_of_unseated (hunseated step List.mem_cons_self) hstep

end Runs

namespace NodeSpec

variable (config : Config) (seat : Seat) (target : Option WidgetId) (spec : NodeSpec)

/-- The steps of a node before those of its children, apart from the construction. -/
def settlingSteps : List BuildStep :=
  (spec.deeds config).map (.work spec.id seat.widget) ++
    (spec.binding.map fun name =>
      BuildStep.bind seat spec.id name config.bindingPolicy).toList

/-- A node is opened by the construction of its widget and then by the steps that settle it. -/
theorem openingSteps_eq :
    spec.openingSteps config seat target =
      .construct seat spec.id (spec.typeIn config) target spec.constructorArgs ::
        spec.settlingSteps config seat := rfl

private theorem seated_of_seats_eq_zero {steps : List BuildStep} {seat : Seat}
    (hunseated : ∀ step ∈ steps, step.seats = 0) : Seated seat steps ∧ seatsOf steps = 0 := by
  induction steps generalizing seat with
  | nil => exact ⟨trivial, rfl⟩
  | cons step rest ih =>
    have hstep := hunseated step List.mem_cons_self
    obtain ⟨hrest, hseats⟩ := @ih (seat.skip step.seats) fun other hother =>
      hunseated other (List.mem_cons_of_mem _ hother)
    refine ⟨⟨?_, hrest⟩, by rw [seatsOf, hstep, hseats]⟩
    cases step with
    | construct => cases hstep
    | work | bind | checkPages | addPage => trivial

/-- After its construction a widget is worked on, and its element may be bound. -/
theorem settlingSteps_cases {step : BuildStep} (hstep : step ∈ spec.settlingSteps config seat) :
    (∃ deed, step = .work spec.id seat.widget deed) ∨
      ∃ name, step = .bind seat spec.id name config.bindingPolicy := by
  rcases List.mem_append.mp hstep with hwork | hbind
  · obtain ⟨deed, -, rfl⟩ := List.mem_map.mp hwork
    exact .inl ⟨deed, rfl⟩
  · obtain ⟨name, -, rfl⟩ := Option.map_eq_some_iff.mp (Option.mem_toList.mp hbind)
    exact .inr ⟨name, rfl⟩

/-- Once the children are built, pages are looked at and added, and calls are made on the widget. -/
theorem closingSteps_cases {children : List NodeSpec} {step : BuildStep}
    (hstep : step ∈ spec.closingSteps seat children) :
    (∃ made, step = .work spec.id seat.widget (.call made)) ∨
      step = .checkPages spec.id children ∨
      ∃ child, step = .addPage spec.id seat.widget child := by
  rcases List.mem_append.mp hstep with hpages | hhook
  · split at hpages
    · rcases List.mem_cons.mp hpages with rfl | hadd
      · exact .inr (.inl rfl)
      · obtain ⟨child, -, rfl⟩ := List.mem_map.mp hadd
        exact .inr (.inr ⟨child, rfl⟩)
    · cases hpages
  · obtain ⟨made, -, rfl⟩ := List.mem_map.mp hhook
    exact .inl ⟨made, rfl⟩

private theorem seats_settlingSteps : ∀ step ∈ spec.settlingSteps config seat, step.seats = 0 := by
  intro step hstep
  rcases settlingSteps_cases config seat spec hstep with ⟨deed, rfl⟩ | ⟨name, rfl⟩ <;> rfl

private theorem seats_closingSteps (children : List NodeSpec) :
    ∀ step ∈ spec.closingSteps seat children, step.seats = 0 := by
  intro step hstep
  rcases closingSteps_cases seat spec hstep with ⟨made, rfl⟩ | rfl | ⟨child, rfl⟩ <;> rfl

/-- The opening of a node takes the one seat of the node. -/
theorem seated_openingSteps :
    Seated seat (spec.openingSteps config seat target) ∧
      seatsOf (spec.openingSteps config seat target) = 1 := by
  rw [openingSteps_eq]
  obtain ⟨hseated, hseats⟩ :=
    @seated_of_seats_eq_zero _ (seat.skip 1) (seats_settlingSteps config seat spec)
  exact ⟨⟨rfl, hseated⟩, by rw [seatsOf, hseats]; rfl⟩

/-- Once a node's own steps are taken, its element is known to have its widget. -/
theorem holders_of_openingSteps {ledger after : Ledger}
    (hrun : (takeSteps (spec.openingSteps config ledger.seat target)).perform ledger =
      (.ok (), after)) :
    after.holders = ledger.holders ++ [⟨spec.id, some ledger.seat.widget⟩] := by
  obtain ⟨planted, hconstruct, hrest⟩ := takeSteps_cons_eq_ok_iff.mp hrun
  obtain ⟨name, -, -, rfl⟩ := BuildStep.construct_eq_ok hconstruct
  exact holders_of_takeSteps (seats_settlingSteps config ledger.seat spec) hrest

end NodeSpec

namespace NodeTree

variable (config : Config)

mutual

/-- The constructions of a tree stand in consecutive seats, one for each node. -/
theorem seated_steps (seat : Seat) (target : Option WidgetId) :
    ∀ tree : NodeTree, Seated seat (tree.steps config seat target) ∧
      seatsOf (tree.steps config seat target) = tree.count
  | node spec children => by
    obtain ⟨hopening, hone⟩ := spec.seated_openingSteps config seat target
    obtain ⟨hinner, hall⟩ := seated_stepsAll (seat.skip 1) (some seat.widget) children
    have hunseated := spec.seats_closingSteps seat (children.map NodeTree.spec)
    obtain ⟨hclosing, hnone⟩ :=
      @NodeSpec.seated_of_seats_eq_zero _ (seat.skip (1 + countAll children)) hunseated
    rw [steps, seated_append, seated_append]
    simp only [seatsOf_append, hone, hall, hnone, count]
    exact ⟨⟨⟨hopening, hinner⟩, hclosing⟩, by omega⟩

/-- The steps of several trees stand in consecutive seats, as many as the trees have nodes. -/
theorem seated_stepsAll (seat : Seat) (target : Option WidgetId) :
    ∀ trees : List NodeTree, Seated seat (stepsAll config seat target trees) ∧
      seatsOf (stepsAll config seat target trees) = countAll trees
  | [] => ⟨trivial, rfl⟩
  | tree :: rest => by
    obtain ⟨hfirst, hcount⟩ := seated_steps seat target tree
    obtain ⟨hrest, hcountAll⟩ := seated_stepsAll (seat.skip tree.count) target rest
    rw [stepsAll, seated_append, seatsOf_append, hcount, hcountAll, countAll]
    exact ⟨⟨hfirst, hrest⟩, rfl⟩

end

end NodeTree

end WidgetTree
