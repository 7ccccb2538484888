import WidgetTree.Markup.Host.Category

namespace WidgetTree.Markup.Host

/-- The operators between two operands, each in front of those that it begins with. -/
def binaryOperators : List (String × Binding) :=
  [ ("+=", .assignment), ("-=", .assignment), ("*=", .assignment), ("/=", .assignment),
    ("%=", .assignment), ("^=", .assignment), ("&=", .assignment), ("|=", .assignment),
    ("<<=", .assignment), (">>=", .assignment), ("&&", .conjunction), ("||", .disjunction),
    ("<<", .shift), (">>", .shift), ("==", .comparison), ("<=", .comparison), ("!=", .comparison),
    (">=", .comparison), ("+", .sum), ("-", .sum), ("*", .product), ("/", .product),
    ("%", .product), ("^", .exclusion), ("&", .intersection), ("|", .union), ("<", .comparison),
    (">", .comparison) ]

/-- The binding of the binary operator ahead, and what lies behind it. -/
def binaryOperator? (tokens : List Token) : Option (Binding × List Token) :=
  binaryOperators.findSome? fun (text, binding) =>
    (behindMarks? text.toList tokens).map fun rest => (binding, rest)

/-- Whether an equals sign that assigns stands ahead. -/
def atAssignment (tokens : List Token) : Bool := Ahead.marks "=" tokens && !Ahead.marks "=>" tokens

/-- The binding of whatever joins operands ahead. -/
def bindingAhead? (tokens : List Token) : Option Binding :=
  match binaryOperator? tokens with
  | some (binding, _) => some binding
  | none =>
    if atAssignment tokens then some .assignment
    else if Ahead.marks ".." tokens then some .range
    else if Ahead.word "as" tokens then some .cast
    else none

/-- Takes the dots of a range, and tells whether its upper end belongs to it. -/
def rangeDots : Phrase Bool := do
  if ← Phrase.takesMarks "..=" then return true
  else
    Phrase.require !(Ahead.marks "..." (← Phrase.ahead))
    Phrase.marks ".."
    return false

/-- What ends a range without an upper end. -/
def rangeStops : List String :=
  ["?", "=>", "=", "+", "/", "%", "^", ">", "<=", "!=", "-=", "*=", "&=", "|=", "<<=", ",", ";"]

/-- Whether a range without an upper end stops here. -/
def rangeStopsAt (place : Place) (tokens : List Token) : Bool :=
  tokens.isEmpty || Ahead.anyMarks rangeStops tokens ||
    Ahead.point tokens ||
    place = .beforeBlock && Ahead.group .brace tokens || Ahead.word "as" tokens

/-- What belongs to an operand and may not follow a cast. -/
def atTrailer (tokens : List Token) : Bool :=
  Ahead.point tokens || Ahead.marks "?" tokens ||
    Ahead.group .bracket tokens || Ahead.group .paren tokens

/-- An operand with the block at its beginning in round brackets, if there is one that no attributes
speak about. Attributes speak about all that belongs to the block as its trailers. -/
def leadingBlockEnclosed (attributed : Bool) : List Token → List Token
  | .mark '#' joint :: .group .bracket content :: rest =>
    .mark '#' joint :: .group .bracket content :: leadingBlockEnclosed true rest
  | .group .brace content :: rest =>
    if attributed && !atTrailer rest then .group .brace content :: rest
    else .group .paren [.group .brace content] :: rest
  | tokens => tokens

/-- Whether an operator stands ahead that could begin arguments in angle brackets. -/
def opensArguments (tokens : List Token) : Bool :=
  Ahead.marks "<" tokens && !Ahead.anyMarks ["<=", "<<="] tokens

/-- The form of an expression with an operator between its operands. -/
def ExpressionForm.join (left : ExpressionForm) (kind : ExpressionKind)
    (openCast : Option Nat) : ExpressionForm :=
  { left with kind, openCast }

section

variable (rules : Rules) (place : Place)

/-- Takes the right operand of an operator. -/
def rightOperand (binding : Binding) : Phrase ExpressionForm := do
  let form ← rules (.operand place)
  rules (.tighterOperators place binding form)

/-- Takes an operand that could be left out. In front of a block, a block that it begins with is
written in round brackets. -/
def optionalOperand (operand : Phrase Unit) : Phrase Unit := do
  let start ← Phrase.position
  operand
  if place = .beforeBlock then Phrase.revise start (leadingBlockEnclosed false)

/-- Takes the upper end of a range, if it has one. -/
def rangeEnd (closed : Bool) : Phrase Unit := do
  if closed || !rangeStopsAt place (← Phrase.ahead) then
    optionalOperand place (discard (rightOperand rules place .range))

/-- Puts a cast at the end of a left operand in round brackets if its type would take the operator
ahead for its own. -/
def separated (left : ExpressionForm) : Phrase ExpressionForm := do
  match left.openCast with
  | some start =>
    if opensArguments (← Phrase.ahead) then
      Phrase.enclose start
      return { left with leadsEnclosed := left.leadsEnclosed || start = left.start }
    else return left
  | none => return left

/-- Takes an operator and its right operand behind its left operand. -/
def binaryOperation (binding : Binding) (rest : List Token) (left : ExpressionForm) :
    Phrase ExpressionForm := do
  let left ← separated left
  Phrase.goTo rest
  let right ← rightOperand rules place binding
  return left.join (if binding = .comparison then .comparison else .other) right.openCast

/-- Takes a type that its left operand is cast to. -/
def castOperation (left : ExpressionForm) : Phrase ExpressionForm := do
  Phrase.word "as"
  let type ← rules (.type false)
  Phrase.require !(atTrailer (← Phrase.ahead))
  return left.join .other (if type.openEnd then some left.start else none)

/-- Takes the operators that bind at least so tightly, with their operands. An operator takes for
its right operand all that binds more tightly than itself, and an assignment also further
assignments. A range is never the left operand of anything, and comparisons do not chain. Where an
angle bracket behind a cast could begin arguments of its type, the cast is written in round
brackets. -/
def operatorsPhrase (least : Binding) (left : ExpressionForm) : Phrase ExpressionForm := do
  let tokens ← Phrase.ahead
  let behind (form : ExpressionForm) : Phrase ExpressionForm :=
    rules (.operators place least form)
  if left.kind = .range then return left
  else match binaryOperator? tokens with
    | some (binding, rest) =>
      if binding.rank < least.rank then return left
      else
        Phrase.require !(binding = .comparison && left.kind = .comparison)
        behind (← binaryOperation rules place binding rest left)
    | none =>
      match bindingAhead? tokens with
      | none => return left
      | some binding =>
        if binding.rank < least.rank then return left
        else if binding = .assignment then
          Phrase.marks "="
          let right ← rightOperand rules place .assignment
          behind (left.join .other right.openCast)
        else if binding = .range then
          rangeEnd rules place (← rangeDots)
          behind (left.join .range none)
        else behind (← castOperation rules left)

/-- Takes the operators that bind more tightly than one on the left, with their operands. -/
def tighterOperatorsPhrase (than : Binding) (right : ExpressionForm) : Phrase ExpressionForm := do
  match bindingAhead? (← Phrase.ahead) with
  | none => return right
  | some binding =>
    let joins := than.rank < binding.rank || binding = .assignment && than = .assignment
    if joins && right.kind ≠ .range then
      let form ← rules (.operators place binding right)
      rules (.tighterOperators place than form)
    else return right

end

end WidgetTree.Markup.Host
