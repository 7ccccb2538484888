import WidgetTree.Element.Error
import WidgetTree.Toolkit.Script

namespace WidgetTree

/-- An act on a state `ω`: it gives a result or fails, and leaves a state in either case. What it
did before it failed stays done. -/
abbrev Act (ω α : Type) := ExceptT BuildError (StateM ω) α

/-- Something that is worked on, with the toolkit that the work is done in. -/
structure Work (ρ σ : Type) where
  subject : ρ
  toolkit : σ

namespace Act

variable {ω ρ σ α : Type}

/-- Performs an act on a state. -/
def perform (act : Act ω α) (state : ω) : Except BuildError α × ω := act.run.run state

/-- The act of an operation of a toolkit, whose errors `describe` puts into the terms of a node. -/
def ofOperation (describe : ToolkitError → BuildError) (operation : σ → Outcome σ α) : Act σ α :=
  ExceptT.mk fun state =>
    match operation state with
    | (.ok result, state) => (.ok result, state)
    | (.error error, state) => (.error (describe error), state)

/-- The act of a script, which cannot fail. -/
def ofScript [Toolkit σ] (script : Script α) : Act σ α :=
  ExceptT.mk fun toolkit =>
    let (result, toolkit) := script.perform toolkit
    (.ok result, toolkit)

/-- Performs an act and goes on whether or not it fails. -/
def attempt (act : Act ω α) : Act ω (Except BuildError α) :=
  ExceptT.mk fun state =>
    let (result, state) := act.perform state
    (.ok result, state)

/-- A result that was come by without acting. -/
def ofExcept (result : Except BuildError α) : Act ω α := ExceptT.mk fun state => (result, state)

/-- An act on the toolkit, in the course of work on something. -/
def inToolkit (act : Act σ α) : Act (Work ρ σ) α :=
  ExceptT.mk fun work =>
    let (result, toolkit) := act.perform work.toolkit
    (result, { work with toolkit })

/-- An act on one part of what is worked on. -/
def onPart {π : Type} (get : ρ → π) (set : π → ρ → ρ) (act : Act (Work π σ) α) : Act (Work ρ σ) α :=
  ExceptT.mk fun work =>
    let (result, after) := act.perform { subject := get work.subject, toolkit := work.toolkit }
    (result, { subject := set after.subject work.subject, toolkit := after.toolkit })

/-- Works on something of its own, and gives it as it is afterwards. -/
def onOwn (own : ρ) (act : Act (Work ρ σ) α) : Act σ (α × ρ) :=
  ExceptT.mk fun toolkit =>
    let (result, after) := act.perform { subject := own, toolkit }
    (result.map (·, after.subject), after.toolkit)

/-- What is worked on. -/
def subject : Act (Work ρ σ) ρ := return (← get).subject

/-- Changes what is worked on. -/
def setSubject (change : ρ → ρ) : Act (Work ρ σ) Unit :=
  modify fun work => { work with subject := change work.subject }

end Act

end WidgetTree
