import WidgetTree.Markup.Reading
import WidgetTree.Node.Tree

namespace WidgetTree.Markup

/-- One step of putting a node together. -/
inductive RecipeStep
  | widgetType (name : String)
  | kind (tag : String)
  | attachStrategy (strategy : String)
  | childrenAttachStrategy (strategy : String)
  | binding (name : String)
  | constructorArg (name : String) (value : AttributeValue)
  | attribute (name : String) (value : AttributeValue)
  | attachArg (name : String) (value : AttributeValue)

/-- How to put a node together: its id, the steps, and then the nodes inside it. A recipe of plain
values makes a node; expressions are left to those who know what their names mean. -/
inductive Recipe
  | recipe (id : String) (steps : List RecipeStep) (children : List Recipe)

namespace Attribute

/-- The text that the attribute is set to. -/
def text (a : Attribute) : Except MarkupError String :=
  match a.value.text? with
  | some text => .ok text
  | none => .error (.textExpected a.name)

/-- The step that an attribute on the element itself stands for. The id is no step. -/
def ownStep (a : Attribute) : Except MarkupError (Option RecipeStep) :=
  match a.name with
  | "id" => .ok none
  | "kind" => a.text.map fun tag => some (.kind tag)
  | "attach" => a.text.map fun strategy => some (.attachStrategy strategy)
  | "children_attach" => a.text.map fun strategy => some (.childrenAttachStrategy strategy)
  | "bind" => a.text.map fun name => some (.binding name)
  | name => .ok (some (.constructorArg name a.value))

/-- The step that an attribute stands for, if it stands for one. -/
def step (a : Attribute) : Except MarkupError (Option RecipeStep) :=
  match a.qualifier with
  | none => a.ownStep
  | some "attach" => .ok (some (.attachArg a.name a.value))
  | some "set" => .ok (some (.attribute a.name a.value))
  | some qualifier => .error (.unknownQualifier qualifier)

/-- The steps that attributes stand for, in order. -/
def stepsOf : List Attribute → Except MarkupError (List RecipeStep)
  | [] => .ok []
  | first :: rest => do
    let step ← first.step
    let steps ← stepsOf rest
    return step.toList ++ steps

end Attribute

namespace Element

/-- The id of the node: the text of the first attribute of that name on the element itself. -/
def id (tag : String) (attributes : List Attribute) : Except MarkupError String :=
  match attributes.find? fun a => a.qualifier.isNone && a.name = "id" with
  | none => .error (.missingId tag)
  | some a => a.text

mutual

/-- The recipe that an element is for. What is wrong with it comes before what is wrong inside. -/
def recipe? : Element → Except MarkupError Recipe
  | element tag attributes children _ => do
    let id ← id tag attributes
    let steps ← Attribute.stepsOf attributes
    let recipes ← recipes? children
    return .recipe id (.widgetType tag :: steps) recipes

/-- The recipes that several elements are for. -/
def recipes? : List Element → Except MarkupError (List Recipe)
  | [] => .ok []
  | first :: rest => do
    let recipe ← recipe? first
    let recipes ← recipes? rest
    return recipe :: recipes

end

end Element

/-- The value of a plain number: without suffix, and within the range of 32 bits with a sign. -/
def plainNumber? (negative : Bool) : LiteralValue → Option Value
  | .integer n "" =>
    let number : Int := if negative then -n else n
    if -2147483648 ≤ number ∧ number ≤ 2147483647 then some (.int number) else none
  | _ => none

/-- The value that is written, if it is plain: a text, a truth value or a plain number. -/
def AttributeValue.plain? : AttributeValue → Option Value
  | literal ⟨_, .text content⟩ => some (.string content)
  | literal ⟨_, number⟩ => plainNumber? false number
  | negative ⟨_, number⟩ => plainNumber? true number
  | flag value => some (.bool value)
  | expression _ => none

/-- The setting that a step with a plain value makes. -/
def RecipeStep.setting? : RecipeStep → Option Setting
  | widgetType name => some (.widgetType name)
  | kind tag => some (.kind tag)
  | attachStrategy strategy => some (.attachStrategy strategy)
  | childrenAttachStrategy strategy => some (.childrenAttachStrategy strategy)
  | binding name => some (.binding name)
  | constructorArg name value => value.plain?.map (.constructorArg name)
  | .attribute name value => value.plain?.map (.attribute name)
  | attachArg name value => value.plain?.map (.attachArg name)

namespace Recipe

mutual

/-- The node that a recipe of plain values makes. -/
def tree? : Recipe → Option NodeTree
  | recipe id steps children => do
    let settings ← steps.mapM RecipeStep.setting?
    let trees ← trees? children
    return .ofSettings id (settings ++ trees.map .child)

/-- The nodes that several recipes make. -/
def trees? : List Recipe → Option (List NodeTree)
  | [] => some []
  | first :: rest => do
    let tree ← tree? first
    let trees ← trees? rest
    return tree :: trees

end

/-- The recipe that a text of markup with one element is for. -/
def ofText? (text : String) : Except MarkupError Recipe := do
  let root ← Element.root? (← tokensOfText? text)
  root.recipe?

end Recipe

end WidgetTree.Markup
