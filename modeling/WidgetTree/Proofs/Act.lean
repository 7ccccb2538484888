import WidgetTree.Element.Act

namespace WidgetTree.Act

variable {ω ρ σ π α β : Type}

@[simp] theorem perform_mk (step : ω → Except BuildError α × ω) (state : ω) :
    perform (ExceptT.mk step : Act ω α) state = step state := rfl

/-- Acts one after the other. Each way of putting acts together is such an equation on `perform`, so
that no proof about an act looks at the transformers that acts are made of. -/
theorem perform_bind (act : Act ω α) (next : α → Act ω β) (state : ω) :
    perform (act >>= next) state =
      match act.perform state with
      | (.ok result, after) => (next result).perform after
      | (.error error, after) => (.error error, after) := by
  show ExceptT.bindCont next (act.perform state).1 (act.perform state).2 = _
  rcases act.perform state with ⟨result | error, after⟩ <;> rfl

/-- Behind an act that succeeds the next is performed, on what the first has left. -/
theorem perform_bind_ok {act : Act ω α} {state after : ω} {result : α}
    (hact : act.perform state = (.ok result, after)) (next : α → Act ω β) :
    perform (act >>= next) state = (next result).perform after := by
  rw [perform_bind, hact]

/-- An act that fails is the last one. -/
theorem perform_bind_error {act : Act ω α} {state after : ω} {error : BuildError}
    (hact : act.perform state = (.error error, after)) (next : α → Act ω β) :
    perform (act >>= next) state = (.error error, after) := by
  rw [perform_bind, hact]

/-- An act whose result is not wanted does as it would otherwise. -/
theorem perform_discard (act : Act ω α) (state : ω) :
    perform (act >>= fun _ => pure ()) state =
      ((act.perform state).1.map fun _ => (), (act.perform state).2) := by
  rw [perform_bind]
  rcases act.perform state with ⟨error | result, after⟩ <;> rfl

/-- A sequence of acts succeeds only if all of them do. -/
theorem perform_bind_eq_ok_iff {act : Act ω α} {next : α → Act ω β} {state after : ω} {result : β} :
    perform (act >>= next) state = (.ok result, after) ↔
      ∃ first middle, act.perform state = (.ok first, middle) ∧
        (next first).perform middle = (.ok result, after) := by
  rw [perform_bind]
  cases hact : act.perform state with
  | mk outcome middle =>
    cases outcome with
    | error error => simp
    | ok first =>
      constructor
      · exact fun hnext => ⟨first, middle, rfl, hnext⟩
      · rintro ⟨_, _, heq, hnext⟩
        cases heq
        exact hnext

@[simp] theorem perform_get (state : ω) : perform (get : Act ω ω) state = (.ok state, state) := rfl

@[simp] theorem perform_set (after state : ω) :
    perform (set after : Act ω PUnit) state = (.ok ⟨⟩, after) := rfl

@[simp] theorem perform_ofExcept (result : Except BuildError α) (state : ω) :
    (ofExcept result : Act ω α).perform state = (result, state) := rfl

/-- An operation of the toolkit leaves what it leaves, and fails with the error that its own is
described as. -/
theorem perform_ofOperation (describe : ToolkitError → BuildError) (operation : σ → Outcome σ α)
    (state : σ) :
    (ofOperation describe operation).perform state =
      ((operation state).1.mapError describe, (operation state).2) := by
  rw [ofOperation, perform_mk]
  rcases operation state with ⟨error | result, after⟩ <;> rfl

@[simp] theorem perform_ofScript [Toolkit σ] (script : Script α) (toolkit : σ) :
    (ofScript script).perform toolkit =
      (.ok (script.perform toolkit).1, (script.perform toolkit).2) := rfl

/-- Work in the toolkit leaves what is worked on. -/
@[simp] theorem perform_inToolkit (act : Act σ α) (work : Work ρ σ) :
    (inToolkit act).perform work =
      ((act.perform work.toolkit).1, { work with toolkit := (act.perform work.toolkit).2 }) := rfl

@[simp] theorem perform_subject (work : Work ρ σ) :
    (subject : Act (Work ρ σ) ρ).perform work = (.ok work.subject, work) := rfl

@[simp] theorem perform_setSubject (change : ρ → ρ) (work : Work ρ σ) :
    (setSubject change : Act (Work ρ σ) Unit).perform work =
      (.ok (), { work with subject := change work.subject }) := rfl

@[simp] theorem perform_attempt (act : Act ω α) (state : ω) :
    (attempt act).perform state = (.ok (act.perform state).1, (act.perform state).2) := rfl

/-- Work on a part leaves all but that part and the toolkit. -/
@[simp] theorem perform_onPart (get : ρ → π) (set : π → ρ → ρ) (act : Act (Work π σ) α)
    (work : Work ρ σ) :
    (onPart get set act).perform work =
      ((act.perform ⟨get work.subject, work.toolkit⟩).1,
        ⟨set (act.perform ⟨get work.subject, work.toolkit⟩).2.subject work.subject,
          (act.perform ⟨get work.subject, work.toolkit⟩).2.toolkit⟩) := rfl

/-- Work on something of its own gives it back with the result. -/
theorem perform_onOwn_ok {own after : ρ} {act : Act (Work ρ σ) α} {toolkit left : σ} {result : α}
    (hact : act.perform ⟨own, toolkit⟩ = (.ok result, ⟨after, left⟩)) :
    (onOwn own act).perform toolkit = (.ok (result, after), left) := by
  rw [onOwn, perform_mk, hact]
  rfl

/-- Of work on something of its own that fails, the toolkit is left. -/
theorem perform_onOwn_error {own after : ρ} {act : Act (Work ρ σ) α} {toolkit left : σ}
    {error : BuildError} (hact : act.perform ⟨own, toolkit⟩ = (.error error, ⟨after, left⟩)) :
    (onOwn own act).perform toolkit = (.error error, left) := by
  rw [onOwn, perform_mk, hact]
  rfl

/-- Work on something of its own succeeds just when the work does. -/
theorem perform_onOwn_eq_ok_iff {own after : ρ} {act : Act (Work ρ σ) α} {toolkit left : σ}
    {result : α} :
    (onOwn own act).perform toolkit = (.ok (result, after), left) ↔
      act.perform ⟨own, toolkit⟩ = (.ok result, ⟨after, left⟩) := by
  rcases hact : act.perform ⟨own, toolkit⟩ with ⟨error | given, changed, made⟩
  · rw [perform_onOwn_error hact]
    constructor <;> nofun
  · rw [perform_onOwn_ok hact]
    constructor
    · rintro ⟨⟩
      rfl
    · rintro ⟨⟩
      rfl

/-- Whatever an act gives, it keeps a property of the state. -/
def Preserves (property : ω → Prop) (act : Act ω α) : Prop :=
  ∀ state, property state → property (act.perform state).2

namespace Preserves

variable {property : ω → Prop}

/-- Doing nothing keeps everything. -/
theorem pure (result : α) : Preserves property (pure result : Act ω α) := fun _ hstate => hstate

theorem get : Preserves property (get : Act ω ω) := fun _ hstate => hstate

/-- Settled results keep everything. -/
theorem ofExcept (result : Except BuildError α) :
    Preserves property (Act.ofExcept result : Act ω α) := fun _ hstate => hstate

/-- What each of two acts keeps, both in turn keep. The second may count on its result being one
that the first has given. -/
theorem bind_of {act : Act ω α} {next : α → Act ω β} (hact : Preserves property act)
    (hnext : ∀ state result after, property state → act.perform state = (.ok result, after) →
      Preserves property (next result)) : Preserves property (act >>= next) := by
  intro state hstate
  have hfirst := hact state hstate
  rw [perform_bind]
  cases hperform : act.perform state with
  | mk outcome after =>
    rw [hperform] at hfirst
    cases outcome with
    | error error => exact hfirst
    | ok result => exact hnext state result after hstate hperform after hfirst

/-- What holds after a first act, and a second keeps, holds after both in turn. -/
theorem bind_after {act : Act ω α} {next : α → Act ω β} {state : ω}
    (hact : property (act.perform state).2) (hnext : ∀ result, Preserves property (next result)) :
    property ((act >>= next).perform state).2 := by
  rw [perform_bind]
  rcases hperform : act.perform state with ⟨error | result, after⟩
  · rw [hperform] at hact
    exact hact
  · rw [hperform] at hact
    exact hnext result after hact

/-- What each of two acts keeps, both in turn keep. -/
theorem bind {act : Act ω α} {next : α → Act ω β} (hact : Preserves property act)
    (hnext : ∀ result, Preserves property (next result)) : Preserves property (act >>= next) :=
  fun state hstate => bind_after (hact state hstate) hnext

end Preserves

end WidgetTree.Act
