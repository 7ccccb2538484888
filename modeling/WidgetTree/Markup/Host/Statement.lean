import WidgetTree.Markup.Host.Declaration
import WidgetTree.Markup.Host.Expression

namespace WidgetTree.Markup.Host

/-- Whether a declaration of a constant stands behind its first word, and no expression. -/
def atConstantName (behind : List Token) : Bool :=
  !(Ahead.group .brace behind || Ahead.anyWordOf ["static", "move"] behind ||
    Ahead.marks "|" behind || Ahead.word "async" behind &&
      !Ahead.anyWordOf ["unsafe", "extern", "fn"] (behind.drop 1))

/-- Whether a declaration stands ahead. -/
def atDeclaration (tokens : List Token) : Bool :=
  let behind := tokens.drop 1
  Ahead.anyWordOf ["pub", "extern", "use", "fn", "mod", "type", "struct", "enum", "trait", "impl",
    "macro"] tokens ||
  Ahead.word "crate" tokens && !Ahead.marks "::" behind ||
  Ahead.word "static" tokens && (Ahead.word "mut" behind || Ahead.name behind) ||
  Ahead.word "const" tokens && atConstantName behind ||
  Ahead.word "unsafe" tokens && !Ahead.group .brace behind ||
  Ahead.word "async" tokens && Ahead.anyWordOf ["unsafe", "extern", "fn"] behind ||
  Ahead.word "union" tokens && Ahead.name behind ||
  Ahead.word "auto" tokens && Ahead.word "trait" behind ||
  Ahead.word "default" tokens && Ahead.anyWordOf ["unsafe", "impl"] behind

/-- What lies behind the words of a path without arguments, with double colons between. -/
def behindPlainPath? (atWord : List Token → Bool) : Nat → List Token → Option (List Token)
  | 0, _ => none
  | rounds + 1, tokens =>
    if atWord tokens then
      let rest := tokens.drop 1
      if Ahead.marks "::" rest then behindPlainPath? atWord rounds (rest.drop 2) else some rest
    else none

/-- What a call of a rule of expansion at the beginning of a statement is. -/
inductive CallExtent
  /-- A declaration of a rule, which has a name. -/
  | declaration
  /-- A statement, with the call ending ahead of these tokens. -/
  | statement (rest : List Token)

/-- A call of a rule of expansion that is a statement of its own, or a declaration. -/
def callExtent? (tokens : List Token) : Option CallExtent :=
  let tokens := if Ahead.marks "::" tokens then tokens.drop 2 else tokens
  match behindPlainPath? atPathWord tokens.length tokens with
  | some (.mark '!' _ :: rest) =>
    if Ahead.name rest || Ahead.word "try" rest then some .declaration
    else
      let behind := rest.drop 1
      let goesOn := Ahead.point behind || Ahead.marks "?" behind
      if Ahead.group .brace rest && !goesOn then some (.statement behind) else none
  | _ => none

/-- What lies behind a call of a rule of expansion on what stands in braces at the beginning of an
expression. -/
def behindBracedCall? (tokens : List Token) : Option (List Token) :=
  let tokens := if Ahead.marks "::" tokens then tokens.drop 2 else tokens
  match behindPlainPath? (fun tokens => atPathWord tokens || Ahead.word "try" tokens)
      tokens.length tokens with
  | some (.mark '!' _ :: rest) => if Ahead.group .brace rest then some (rest.drop 1) else none
  | _ => none

section

variable (rules : Rules)

/-- Takes a binding of a pattern to a value. What is done if it does not match follows only a value
that does not end with a brace. -/
def binding : Phrase Unit := do
  Phrase.word "let"
  discard (rules .pattern)
  if ← Phrase.takesMarks ":" then rules.type
  if ← Phrase.takesMarks "=" then
    rules.expression
    unless ← Phrase.endsWithBrace do
      if ← Phrase.takesWord "else" then rules.block
  Phrase.marks ";"

/-- Puts attributes in front of the first operand of an expression. -/
def inFront (form : ExpressionForm) (attributes : List Token) : List Token → List Token
  | .group .paren content :: rest =>
    if form.leadsEnclosed then .group .paren (attributes ++ content) :: rest
    else attributes ++ .group .paren content :: rest
  | tokens => attributes ++ tokens

/-- Takes an expression at the beginning of a statement. A call of a rule of expansion on what
stands in braces is written in round brackets if the expression goes on behind it, since the
statement would end there otherwise; but not in a range that is in round brackets itself. -/
def leadingExpression (attributed : Bool) : Phrase ExpressionForm := do
  let start ← Phrase.position
  let tokens ← Phrase.ahead
  let form ← rules .leading
  match behindBracedCall? tokens with
  | none => return form
  | some rest =>
    let applied := Ahead.group .paren rest || Ahead.group .bracket rest
    let joined := (bindingAhead? rest).isSome
    let goesOn := applied || joined
    if form.leadsEnclosed || !goesOn || attributed && form.kind = .range then return form
    else
      let count := tokens.length - rest.length
      Phrase.revise start fun written =>
        .group .paren (written.take count) :: written.drop count
      return { form with leadsEnclosed := joined }

/-- Takes an expression as a statement behind its attributes. They are written in front of its first
operand, but not if that is written as it is given; a range behind them is written in round
brackets. Without a semicolon only the last expression may stand, unless it ends with a block. -/
def expressionStatement (attributes : List Token) : Phrase Unit := do
  let start ← Phrase.position
  let form ← leadingExpression rules !attributes.isEmpty
  unless attributes.isEmpty do
    if form.kind = .range then
      Phrase.enclose start
      Phrase.revise start (attributes ++ ·)
    else unless form.leadsAsGiven do Phrase.revise start (inFront form attributes)
  let ended ← Phrase.takesMarks ";"
  let finished ← Phrase.atEnd
  Phrase.require (ended || finished || form.kind = .block || form.kind = .bracedCall)

/-- Takes a statement that is no expression behind its attributes, if it is none, and tells whether
it is written as it is given. -/
def otherStatement? : Phrase (Option Bool) := do
  let tokens ← Phrase.ahead
  match callExtent? tokens with
  | some (.statement rest) =>
    Phrase.goTo rest
    discard (Phrase.takesMarks ";")
    return some false
  | some .declaration => return some (← declarationContent rules)
  | none =>
    if Ahead.word "let" tokens then
      binding rules
      return some false
    else if atDeclaration tokens then return some (← declarationContent rules)
    else return none

/-- Takes a statement, and tells whether it is written as it is given. -/
def statementContent : Phrase Bool := do
  let start ← Phrase.position
  let ((), attributes) ← Phrase.withheld (attributes rules)
  match ← otherStatement? rules with
  | some asGiven =>
    Phrase.revise start (attributes ++ ·)
    return asGiven
  | none =>
    expressionStatement rules attributes
    return false

/-- Takes a statement. -/
def statement : Phrase Unit := discard (Phrase.asGivenIf id (statementContent rules))

/-- Takes semicolons. -/
def semicolons : Phrase Unit := Phrase.repeated (Ahead.marks ";") (Phrase.marks ";")

/-- Takes the statements of a block, up to its end. Statements end with a semicolon, except those
that end with a block and the last one. -/
def statementsPhrase : Phrase Unit := do
  semicolons
  Phrase.repeated (!·.isEmpty) do
    statement rules
    semicolons

end

end WidgetTree.Markup.Host
