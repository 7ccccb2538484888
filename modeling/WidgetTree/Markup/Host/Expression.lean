import WidgetTree.Markup.Host.Field
import WidgetTree.Markup.Host.Operator
import WidgetTree.Markup.Host.Type

namespace WidgetTree.Markup.Host

/-- Whether an expression may begin here. -/
def atExpression (tokens : List Token) : Bool :=
  Ahead.anyWord tokens && !Ahead.word "as" tokens ||
    Ahead.group .paren tokens || Ahead.group .bracket tokens || Ahead.group .brace tokens ||
    Ahead.literal tokens || Ahead.exclamation tokens ||
    Ahead.marks "-" tokens && !Ahead.anyMarks ["-=", "->"] tokens ||
    Ahead.marks "*" tokens && !Ahead.marks "*=" tokens ||
    Ahead.marks "|" tokens && !Ahead.marks "|=" tokens ||
    Ahead.marks "&" tokens && !Ahead.marks "&=" tokens ||
    Ahead.marks "<" tokens && !Ahead.anyMarks ["<=", "<<="] tokens ||
    Ahead.anyMarks ["..", "::", "#"] tokens || Ahead.scopeName tokens

/-- Whether a word with a block behind it stands ahead. -/
def atBlockOf (name : String) (tokens : List Token) : Bool :=
  Ahead.word name tokens && Ahead.group .brace (tokens.drop 1)

/-- Whether a function without a name stands ahead. -/
def atClosure (tokens : List Token) : Bool :=
  let behind := tokens.drop 1
  Ahead.marks "|" tokens || Ahead.anyWordOf ["move", "static"] tokens || atForParameters tokens ||
    Ahead.word "const" tokens && !Ahead.group .brace behind ||
    Ahead.word "async" tokens && (Ahead.marks "|" behind || Ahead.word "move" behind)

section

variable (rules : Rules)

/-- Takes arguments in round brackets. -/
def callArguments : Phrase Unit := .inside .paren (.listedToEnd rules.expression)

/-- Takes the name of a field or of a method with its arguments, or the number of a field. -/
def member : Phrase Unit := do
  if Ahead.name (← Phrase.ahead) then
    Phrase.name
    let applied := Ahead.marks "::" (← Phrase.ahead)
    if applied then discard (rules .arguments)
    if applied || Ahead.group .paren (← Phrase.ahead) then callArguments rules
  else fieldPlace

/-- Takes what follows a point behind an operand. -/
def behindPoint : Phrase Unit := do
  match ← Phrase.ahead with
  | .literal ⟨source, .decimal _ _⟩ :: rest =>
    match fieldPlaces? source with
    | none => failure
    | some (places, unfinished) =>
      Phrase.replace places rest
      if unfinished then
        unless ← Phrase.takesWord "await" do member rules
  | _ => unless ← Phrase.takesWord "await" do member rules

/-- Takes what belongs to an operand behind it. -/
def trailersPhrase (form : ExpressionForm) : Phrase ExpressionForm := do
  let tokens ← Phrase.ahead
  let further : Phrase ExpressionForm :=
    rules (.trailers { form with kind := .other, leadsAsGiven := false })
  if Ahead.group .paren tokens then
    callArguments rules
    further
  else if Ahead.group .bracket tokens then
    Phrase.insideAtLeast .bracket rules.expression
    further
  else if form.kind ≠ .range && Ahead.point tokens then
    Phrase.marks "."
    behindPoint rules
    further
  else if form.kind ≠ .range && Ahead.marks "?" tokens then
    Phrase.marks "?"
    further
  else return form

/-- Takes the value of one field of a structure. -/
def fieldValue : Phrase Unit := do
  attributes rules
  if Ahead.name (← Phrase.ahead) then
    Phrase.name
    if ← Phrase.takesMarks ":" then rules.expression
  else
    fieldPlace
    Phrase.marks ":"
    rules.expression

/-- Takes the fields of a structure, at most so many, and behind two dots what the others are taken
from. -/
def fieldValues : Nat → Phrase Unit
  | 0 => pure ()
  | rounds + 1 => do
    unless ← Phrase.atEnd do
      if ← Phrase.takesMarks ".." then
        unless ← Phrase.atEnd do rules.expression
      else
        fieldValue rules
        unless ← Phrase.atEnd do
          Phrase.marks ","
          fieldValues rounds

/-- Takes an expression that begins with a path. -/
def pathExpression (place : Place) : Phrase ExpressionKind := do
  let named ← path rules .expression
  let tokens ← Phrase.ahead
  if named.isPlain && Ahead.exclamation tokens then
    Phrase.marks "!"
    let delimiter ← Phrase.anyGroup
    return if delimiter = .brace then .bracedCall else .other
  else if place = .anywhere && Ahead.group .brace tokens then
    Phrase.insideAtLeast .brace do fieldValues rules ((← Phrase.ahead).length + 1)
    return .other
  else return .other

/-- Takes the items of a list, or an item and how often it stands in the list. -/
def listItems : Phrase Unit := do
  unless ← Phrase.atEnd do
    rules.expression
    if ← Phrase.takesMarks "," then Phrase.listedToEnd rules.expression
    else if ← Phrase.takesMarks ";" then rules.expression
    else Phrase.require (← Phrase.atEnd)

/-- Takes the expression in front of a block. -/
def condition : Phrase Unit := discard (rules (.expression .beforeBlock))

/-- Takes a block that is run on a condition, and what is done otherwise; at most so many
conditions. -/
def conditional : Nat → Phrase Unit
  | 0 => failure
  | rounds + 1 => do
    attributes rules
    Phrase.word "if"
    condition rules
    rules.block
    if ← Phrase.takesWord "else" then
      if Ahead.word "if" (← Phrase.ahead) then conditional rounds else rules.block

/-- Takes one case of a choice: a pattern, a guard or none, and what is done. -/
def choiceCase : Phrase Unit := do
  attributes rules
  rules.alternatives
  if ← Phrase.takesWord "if" then rules.expression
  Phrase.marks "=>"
  let form ← rules .leading
  if form.kind = .block then discard (Phrase.takesMarks ",")
  else unless ← Phrase.atEnd do Phrase.marks ","

/-- Takes a choice between cases. -/
def choice : Phrase Unit := do
  Phrase.word "match"
  condition rules
  .inside .brace do
    innerAttributes rules
    Phrase.repeated (!·.isEmpty) (choiceCase rules)

/-- Takes a loop over items. -/
def itemLoop : Phrase Unit := do
  Phrase.word "for"
  rules.alternatives
  Phrase.word "in"
  condition rules
  bodyBlock rules

/-- Takes a loop or a block that may have a name. -/
def nameable : Phrase Unit := do
  let tokens ← Phrase.ahead
  if ← Phrase.takesWord "while" then
    condition rules
    bodyBlock rules
  else if Ahead.word "for" tokens then itemLoop rules
  else if ← Phrase.takesWord "loop" then bodyBlock rules
  else bodyBlock rules

/-- Takes a loop or a block with its name. -/
def named : Phrase Unit := do
  Phrase.scopeName
  Phrase.marks ":"
  nameable rules

/-- A block without attributes of its own at its beginning. -/
def withoutInnerAttributes : List Token → List Token
  | .mark '#' _ :: .mark '!' _ :: .group .bracket _ :: rest => withoutInnerAttributes rest
  | tokens => tokens

/-- Changes what stands between the brackets of the last token. -/
def insideLast (change : List Token → List Token) : List Token → List Token
  | [] => []
  | [.group delimiter content] => [.group delimiter (change content)]
  | first :: rest => first :: insideLast change rest

/-- Takes a parameter of a function without a name. Attributes of a pattern without a type that is
written as it is given are not written, nor are those inside a block; a range with attributes is
written in round brackets. -/
def closureParameter : Phrase Unit := do
  let start ← Phrase.position
  attributes rules
  let behind ← Phrase.position
  let form ← rules .pattern
  if ← Phrase.takesMarks ":" then rules.type
  else match form with
    | .asGiven => Phrase.strike start behind
    | .constant => Phrase.revise behind (insideLast withoutInnerAttributes)
    | .range | .openRange => if start ≠ behind then Phrase.enclose behind
    | .other => pure ()

/-- Takes a function without a name. -/
def closure (place : Place) : Phrase Unit := do
  discard (forParameters rules)
  discard (Phrase.takesWord "const")
  discard (Phrase.takesWord "static")
  discard (Phrase.takesWord "async")
  discard (Phrase.takesWord "move")
  Phrase.marks "|"
  Phrase.listed (Ahead.marks "|") (closureParameter rules)
  Phrase.marks "|"
  if ← Phrase.takesMarks "->" then
    rules.type
    rules.block
  else discard (rules (.expression place))

/-- Takes an expression if one may begin here. -/
def result? : Phrase Unit := do
  if atExpression (← Phrase.ahead) then rules.expression

/-- What lies behind the attributes ahead. -/
def behindAttributes : List Token → List Token
  | .mark '#' _ :: .group .bracket _ :: rest => behindAttributes rest
  | tokens => tokens

/-- Takes what leaves a loop or a block, with its name or not and with a value or not. Without the
name, a value that begins with a loop or a block with a name is written in round brackets. -/
def leaving (place : Place) : Phrase Unit := do
  Phrase.word "break"
  let addressed := Ahead.scopeName (← Phrase.ahead)
  if addressed then
    Phrase.scopeName
    Phrase.require !(Ahead.marks ":" (← Phrase.ahead))
  let tokens ← Phrase.ahead
  if atExpression tokens && (place = .anywhere || !Ahead.group .brace tokens) then
    let start ← Phrase.position
    optionalOperand place rules.expression
    if !addressed && Ahead.scopeName (behindAttributes tokens) then Phrase.enclose start

/-- Takes a pattern that a value has to match, and the value. -/
def matching (place : Place) : Phrase Unit := do
  Phrase.word "let"
  rules.alternatives
  Phrase.marks "="
  let form ← rules (.operand place)
  discard (rules (.operators place .comparison form))

/-- Takes an expression that ends with a block and begins with a word. -/
def blockExpression : Phrase Unit := do
  let tokens ← Phrase.ahead
  if Ahead.word "if" tokens then conditional rules tokens.length
  else if Ahead.word "match" tokens then choice rules
  else if Ahead.word "try" tokens then
    Phrase.word "try"
    rules.block
  else if ← Phrase.takesWord "unsafe" then bodyBlock rules
  else if ← Phrase.takesWord "const" then bodyBlock rules
  else nameable rules

/-- Whether an expression that ends with a block stands ahead. -/
def atBlockExpression (tokens : List Token) : Bool :=
  Ahead.anyWordOf ["if", "while", "loop", "match", "unsafe"] tokens ||
    Ahead.word "for" tokens && !atForParameters tokens || atBlockOf "try" tokens ||
    atBlockOf "const" tokens || Ahead.group .brace tokens

/-- Takes an expression that has no operators and nothing behind it. -/
def atom (place : Place) : Phrase ExpressionKind := do
  let tokens ← Phrase.ahead
  let behind := tokens.drop 1
  let plain (phrase : Phrase Unit) : Phrase ExpressionKind := do
    phrase
    return .other
  if Ahead.literal tokens then plain Phrase.literal
  else if atBlockOf "async" tokens || Ahead.word "async" tokens && atBlockOf "move" behind then
    plain do
      Phrase.word "async"
      discard (Phrase.takesWord "move")
      rules.block
  else if atBlockOf "try" tokens then
    blockExpression rules
    return .block
  else if atClosure tokens then plain (closure rules place)
  else if atBuiltIn tokens then
    builtIn
    return .asGiven
  else if atPath tokens || Ahead.word "try" tokens && Ahead.anyMarks ["!", "::"] behind then
    pathExpression rules place
  else if Ahead.group .paren tokens then plain (callArguments rules)
  else if Ahead.word "break" tokens then plain (leaving rules place)
  else if ← Phrase.takesWord "continue" then plain do
    if Ahead.scopeName (← Phrase.ahead) then Phrase.scopeName
  else if ← Phrase.takesWord "return" then plain (result? rules)
  else if ← Phrase.takesWord "become" then
    rules.expression
    return .asGiven
  else if Ahead.group .bracket tokens then
    plain (Phrase.insideAtLeast .bracket (listItems rules))
  else if Ahead.word "let" tokens then plain (matching rules place)
  else if ← Phrase.takesWord "yield" then plain (result? rules)
  else if atBlockExpression tokens then
    blockExpression rules
    return .block
  else if Ahead.marks ".." tokens then
    rangeEnd rules place (← rangeDots)
    return .range
  else if ← Phrase.takesWord "_" then return .other
  else
    named rules
    return .block

/-- Takes an atom with what belongs to it behind it. -/
def extendedAtom (place : Place) (start : Nat) : Phrase ExpressionForm := do
  let kind ← atom rules place
  rules (.trailers { kind, start, leadsAsGiven := kind = .asGiven })

/-- Takes the sign of a reference. -/
def referenceSign : Phrase Unit := do
  Phrase.marks "&"
  let tokens ← Phrase.ahead
  if Ahead.word "raw" tokens && Ahead.anyWordOf ["mut", "const"] (tokens.drop 1) then
    Phrase.word "raw"
    unless ← Phrase.takesWord "mut" do Phrase.word "const"
  else discard (Phrase.takesWord "mut")

/-- Takes an expression without operators between operands. A range without a lower end has no
attributes. -/
def operandPhrase (place : Place) : Phrase ExpressionForm :=
  Phrase.asGivenIf (·.kind = .asGiven) do
    let start ← Phrase.position
    attributes rules
    let attributed := (← Phrase.position) ≠ start
    let tokens ← Phrase.ahead
    if Ahead.anyMarks ["&", "*", "!", "-"] tokens then
      if Ahead.marks "&" tokens then referenceSign else discard Phrase.next
      discard (rules (.operand place))
      return { kind := .other, start }
    else
      let form ← extendedAtom rules place start
      Phrase.require !(attributed && form.kind = .range)
      return form

/-- Takes an expression. -/
def expressionPhrase (place : Place) : Phrase ExpressionForm := do
  let form ← rules (.operand place)
  rules (.operators place .assignment form)

/-- Takes an expression that ends with a block, as the beginning of another one or all of it. -/
def leadingBlock (start : Nat) : Phrase ExpressionForm := do
  if Ahead.scopeName (← Phrase.ahead) then named rules else blockExpression rules
  return { kind := .block, start }

/-- Takes an operand behind its attributes, which were written from a position on. They are not
written in front of what is written as it is given, and a range behind them is written in round
brackets. -/
def leadingOperand (start : Nat) : Phrase ExpressionForm := do
  let behind ← Phrase.position
  let form ← rules (.operand .anywhere)
  if behind ≠ start then
    if form.kind = .asGiven then Phrase.strike start behind
    if form.kind = .range then Phrase.enclose behind
  return { form with start }

/-- Takes an expression that ends behind a block at its beginning, unless what follows can only
belong to it. -/
def leadingPhrase : Phrase ExpressionForm := do
  let start ← Phrase.position
  attributes rules
  let tokens ← Phrase.ahead
  if atBlockExpression tokens || Ahead.scopeName tokens then
    let form ← leadingBlock rules start
    let tokens ← Phrase.ahead
    if Ahead.point tokens || Ahead.marks "?" tokens then
      let form ← rules (.trailers form)
      rules (.operators .anywhere .assignment form)
    else return form
  else
    let form ← leadingOperand rules start
    rules (.operators .anywhere .assignment form)

end

end WidgetTree.Markup.Host
