import WidgetTree.Markup.Phrase

namespace WidgetTree.Markup.Host

/-- How tightly an operator between two operands binds, from the loosest on. -/
inductive Binding
  | assignment
  | range
  | disjunction
  | conjunction
  | comparison
  | union
  | exclusion
  | intersection
  | shift
  | sum
  | product
  | cast
deriving DecidableEq

namespace Binding

/-- The place among the bindings, the loosest first. -/
def rank : Binding → Nat
  | assignment => 0
  | range => 1
  | disjunction => 2
  | conjunction => 3
  | comparison => 4
  | union => 5
  | exclusion => 6
  | intersection => 7
  | shift => 8
  | sum => 9
  | product => 10
  | cast => 11

end Binding

/-- Where an expression stands. -/
inductive Place
  | anywhere
  /-- In front of a block, so that a brace behind a path begins the block. -/
  | beforeBlock
deriving DecidableEq

/-- Where a bound of a type stands. -/
inductive BoundPlace
  /-- In the type of objects that provide something. -/
  | object
  /-- In a type that is known by what it provides only. -/
  | hidden
  /-- In a condition on a type. -/
  | condition
deriving DecidableEq

/-- The kinds of expressions. -/
inductive ExpressionKind
  /-- A range: nothing is joined to it on its right. -/
  | range
  /-- A comparison: nothing is compared with it. -/
  | comparison
  /-- What ends with a block and is a statement as it is. -/
  | block
  /-- A call of a rule of expansion on what stands in braces, which is a statement as it is. -/
  | bracedCall
  /-- What is written as it is given. -/
  | asGiven
  | other
deriving DecidableEq

/-- What matters about an expression to those around it. -/
structure ExpressionForm where
  kind : ExpressionKind
  /-- Where it begins in what is written. -/
  start : Nat
  /-- Whether its first operand is written as it is given. -/
  leadsAsGiven : Bool := false
  /-- Whether its first operand stands in round brackets that were not given. -/
  leadsEnclosed : Bool := false
  /-- Where the cast begins that it ends with, if the type of the cast ends with a path that could
  still take arguments in angle brackets. -/
  openCast : Option Nat := none

/-- The kinds of types. -/
inductive TypeKind
  /-- A path of one segment. -/
  | name
  /-- Any other path that does not begin with a type. -/
  | path
  /-- One bound. -/
  | bound
  /-- One bound with round brackets around it. -/
  | bracketedBound
  | other
deriving DecidableEq

/-- What matters about a type to those around it. -/
structure TypeForm where
  kind : TypeKind
  /-- Whether it ends with a path whose last segment has no arguments. -/
  openEnd : Bool

/-- What matters about a bound of a type to those around it. -/
structure BoundForm where
  /-- Whether it is something that a type provides. -/
  provides : Bool
  /-- Whether it ends with a path whose last segment has no arguments. -/
  openEnd : Bool

/-- What matters about a pattern to those around it. -/
inductive PatternForm
  | range
  /-- A range without one of its ends. -/
  | openRange
  /-- A block whose value is known beforehand. -/
  | constant
  /-- What is written as it is given. -/
  | asGiven
  | other
deriving DecidableEq

/-- The categories of phrases that contain each other. What stands in braces is an expression of the
language around the markup. Its phrases contain each other, so each rule is given the rules of all
categories, to take the phrases inside it. -/
inductive Category
  | expression (place : Place)
  /-- An expression without operators between operands. -/
  | operand (place : Place)
  /-- What may follow behind an operand that belongs to it. -/
  | trailers (form : ExpressionForm)
  /-- The operators that bind at least so tightly, with their operands, behind an operand. -/
  | operators (place : Place) (least : Binding) (left : ExpressionForm)
  /-- The operators that bind more tightly, with their operands, behind an operand on the right of
  an operator. -/
  | tighterOperators (place : Place) (than : Binding) (right : ExpressionForm)
  /-- An expression that ends behind a block at its beginning, unless it clearly goes on. -/
  | leading
  /-- What stands between the braces of a block. -/
  | statements
  /-- A declaration with its attributes. -/
  | declaration
  /-- A type; with `sums`, one of several joined by plus signs. -/
  | type (sums : Bool)
  /-- Arguments in angle brackets. -/
  | arguments
  | bound (place : BoundPlace)
  /-- A pattern without alternatives. -/
  | pattern
  /-- A pattern with its alternatives. -/
  | alternatives

/-- What matters about the phrases of a category to those around them. Of arguments it is whether
there are any. -/
abbrev Category.Form : Category → Type
  | expression _ | operand _ | trailers _ | operators _ _ _ | tighterOperators _ _ _ | leading =>
    ExpressionForm
  | statements | declaration => Unit
  | type _ => TypeForm
  | arguments => Bool
  | bound _ => BoundForm
  | pattern | alternatives => PatternForm

/-- How phrases of each category are taken. -/
abbrev Rules := (category : Category) → Phrase category.Form

namespace Rules

variable (rules : Rules)

/-- Takes an expression that may stand anywhere. -/
def expression : Phrase Unit := discard (rules (.expression .anywhere))

/-- Takes a type. -/
def type : Phrase Unit := discard (rules (.type true))

/-- Takes a pattern with its alternatives. -/
def alternatives : Phrase Unit := discard (rules .alternatives)

/-- Takes a block. -/
def block : Phrase Unit := .inside .brace (rules .statements)

end Rules

/-- Words that may stand in a path but name nothing. -/
def scopeWords : List String := ["super", "self", "Self", "crate"]

/-- Whether the word of a path stands ahead. -/
def atPathWord (tokens : List Token) : Bool :=
  Ahead.name tokens || Ahead.anyWordOf scopeWords tokens

/-- Takes a path without arguments. -/
def plainPath : Phrase Unit := do
  let pathWord : Phrase Unit := do
    Phrase.require (atPathWord (← Phrase.ahead))
    Phrase.anyWord
  discard (Phrase.takesMarks "::")
  pathWord
  Phrase.repeated (Ahead.marks "::") do
    Phrase.marks "::"
    pathWord

/-- Takes the call of a rule of expansion, and tells what its brackets are. -/
def expansion : Phrase Delimiter := do
  plainPath
  Phrase.marks "!"
  Phrase.anyGroup

/-- Takes the value of an attribute, which does not begin with attributes itself. -/
def attributeValue (rules : Rules) : Phrase Unit := do
  Phrase.require !(Ahead.marks "#" (← Phrase.ahead))
  rules.expression

/-- Takes an attribute in front of what it speaks about: a path, and maybe brackets with anything
between them or a value. -/
def attributeContent (rules : Rules) : Phrase Unit := do
  unless ← Phrase.takesWord "unsafe" do plainPath
  match ← Phrase.ahead with
  | .group _ _ :: _ => discard Phrase.anyGroup
  | _ => if ← Phrase.takesMarks "=" then attributeValue rules

/-- Takes the attributes in front of a phrase. -/
def attributes (rules : Rules) : Phrase Unit :=
  Phrase.repeated (Ahead.marks "#") do
    Phrase.marks "#"
    Phrase.insideAtLeast .bracket (attributeContent rules)

/-- Whether an attribute of the enclosing phrase stands ahead. -/
def atInnerAttribute : List Token → Bool
  | .mark '#' _ :: .mark '!' _ :: _ => true
  | _ => false

/-- Takes the attributes of a block at the beginning of what stands between its braces. -/
def innerAttributes (rules : Rules) : Phrase Unit :=
  Phrase.repeated atInnerAttribute do
    Phrase.marks "#"
    Phrase.marks "!"
    Phrase.insideAtLeast .bracket (attributeContent rules)

/-- Takes a block that may begin with attributes of its own. -/
def bodyBlock (rules : Rules) : Phrase Unit :=
  .inside .brace do
    innerAttributes rules
    rules .statements

end WidgetTree.Markup.Host
