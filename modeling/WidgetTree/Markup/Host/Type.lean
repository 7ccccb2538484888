import WidgetTree.Markup.Host.Bound

namespace WidgetTree.Markup.Host

section

variable (rules : Rules)

/-- A type that nothing else matters about. -/
def TypeForm.closed : TypeForm := ⟨.other, false⟩

/-- Takes a type that is a list of bounds behind its first one. With nothing behind, it is of the
kind given. -/
def summands (joins : Bool) (first : TypeForm) : Phrase TypeForm := do
  let before ← Phrase.position
  let all ← furtherBounds rules .object joins ⟨true, first.openEnd⟩ (← Phrase.ahead).length
  return if (← Phrase.position) = before then first else ⟨.other, all.openEnd⟩

/-- Takes what may stand instead of the type of a first parameter, if it is the object that the
function belongs to: the name of that object that may change. -/
def changeableSelf : Phrase Unit := do
  Phrase.word "mut"
  Phrase.word "self"

/-- Whether the name of a changeable object stands ahead. -/
def atChangeableSelf (tokens : List Token) : Bool :=
  Ahead.word "mut" tokens && Ahead.word "self" (tokens.drop 1)

/-- Takes the type of a parameter, with a name in front or not. -/
def parameterType (first : Bool) : Phrase Unit :=
  discard <| Phrase.asGivenIf id do
    let changeable := first && atChangeableSelf (← Phrase.ahead)
    if changeable then Phrase.word "mut"
    let tokens ← Phrase.ahead
    let behind := Ahead.behind tokens
    let ofObject := first && Ahead.word "self" tokens
    let named := (Ahead.name tokens || Ahead.word "_" tokens || ofObject) &&
      Ahead.marks ":" behind && !Ahead.marks "::" behind
    if named then
      Phrase.anyWord
      Phrase.marks ":"
    if first && !(named && ofObject) && atChangeableSelf (← Phrase.ahead) then
      changeableSelf
      return true
    else if changeable && !named then
      Phrase.word "self"
      return true
    else
      rules.type
      return changeable

/-- Whether dots that stand for any further parameters stand ahead, with a name in front or not. -/
def atFurtherParameters (tokens : List Token) : Bool :=
  let behind := tokens.drop 1
  Ahead.marks "..." tokens ||
    (Ahead.name tokens || Ahead.word "_" tokens) && Ahead.marks ":" behind &&
      Ahead.marks "..." (behind.drop 1)

/-- Takes dots that stand for any further parameters. -/
def furtherParameters : Phrase Unit := do
  unless Ahead.marks "..." (← Phrase.ahead) do
    Phrase.anyWord
    Phrase.marks ":"
  Phrase.marks "..."
  discard (Phrase.takesMarks ",")

/-- Takes the types of parameters, at most so many. -/
def parameterTypes (first : Bool) : Nat → Phrase Unit
  | 0 => pure ()
  | rounds + 1 => do
    unless ← Phrase.atEnd do
      attributes rules
      if atFurtherParameters (← Phrase.ahead) then furtherParameters
      else
        parameterType rules first
        unless ← Phrase.atEnd do
          Phrase.marks ","
          parameterTypes false rounds

/-- Takes the word for code from elsewhere, with a text that says how it is called or not. -/
def convention : Phrase Unit := do
  Phrase.word "extern"
  if Ahead.text (← Phrase.ahead) then Phrase.literal

/-- Takes the type of a function. -/
def functionType : Phrase TypeForm := do
  discard (Phrase.takesWord "unsafe")
  if Ahead.word "extern" (← Phrase.ahead) then convention
  Phrase.word "fn"
  Phrase.insideAtLeast .paren do parameterTypes rules true ((← Phrase.ahead).length + 1)
  return ⟨.other, ← result rules false⟩

/-- What stands between round brackets in a type. -/
inductive Bracketed
  /-- Something to provide that is doubted, to which bounds are joined. -/
  | doubted (openEnd : Bool)
  /-- A type to which bounds may be joined. -/
  | type (form : TypeForm)
  | other

/-- Takes what stands between round brackets in a type. -/
def bracketedType : Phrase Bracketed :=
  Phrase.insideAtLeast .paren do
    let tokens ← Phrase.ahead
    if tokens.isEmpty then return .other
    else if Ahead.scopeName tokens then
      discard (bounds rules .object true)
      return .other
    else if Ahead.marks "?" tokens then return .doubted (← provision rules .object).openEnd
    else
      let first ← rules (.type true)
      if ← Phrase.takesMarks "," then
        Phrase.listedToEnd rules.type
        return .other
      else return .type first

/-- A pair of round brackets without one inside it that holds all. -/
def withoutInnerBrackets : List Token → List Token
  | [.group .paren [.group .paren content]] => [.group .paren content]
  | tokens => tokens

/-- Takes a type that begins with round brackets. Of two pairs around the first of several bounds
only one is written. -/
def groupedType (sums : Bool) : Phrase TypeForm := do
  let start ← Phrase.position
  match ← bracketedType rules with
  | .doubted openEnd => summands rules true ⟨.bracketedBound, openEnd⟩
  | .type form =>
    if sums && form.kind ≠ .other && Ahead.marks "+" (← Phrase.ahead) then
      if form.kind = .bracketedBound then Phrase.revise start withoutInnerBrackets
      summands rules true form
    else return .closed
  | .other => return .closed

/-- Takes a type that is named by a path: the type itself, the result of a rule of expansion, or
bounds that begin with it. Parameters that it holds for were written from a position on, if any. -/
def namedType (sums : Bool) (general : Option Nat) : Phrase TypeForm := do
  let behind ← Phrase.position
  let named ← path rules .type
  let form : TypeForm := ⟨named.typeKind, named.openEnd⟩
  if named.qualified then return form
  else if named.isPlain && Ahead.exclamation (← Phrase.ahead) then
    Phrase.marks "!"
    discard Phrase.anyGroup
    if let some start := general then Phrase.strike start behind
    return .closed
  else
    let form := if general.isSome then { form with kind := .bound } else form
    if sums then summands rules false form else return form

/-- Whether what is made by the language itself stands ahead. -/
def atBuiltIn (tokens : List Token) : Bool :=
  Ahead.word "builtin" tokens && Ahead.marks "#" (tokens.drop 1)

/-- Takes what is made by the language itself. -/
def builtIn : Phrase Unit := do
  Phrase.word "builtin"
  Phrase.marks "#"
  Phrase.name
  Phrase.require ((← Phrase.anyGroup) = .paren)

/-- Takes a type of objects that are known by what they provide, and tells whether it is written as
it is given. -/
def objectType (sums : Bool) : Phrase (TypeForm × Bool) := do
  Phrase.word "dyn"
  let starred ← Phrase.takesMarks "*"
  let all ← bounds rules .object sums
  return (⟨.other, all.openEnd && !starred⟩, starred)

/-- Takes the items' type of a list, with their number or without. -/
def listType : Phrase Unit :=
  Phrase.insideAtLeast .bracket do
    rules.type
    if ← Phrase.takesMarks ";" then rules.expression

/-- Takes the type behind a sign for references. -/
def referredType : Phrase TypeForm := do
  let form ← rules (.type false)
  return ⟨.other, form.openEnd⟩

/-- Whether a type may stand here that holds for parameters. -/
def atGeneralType (tokens : List Token) : Bool :=
  atPathWord tokens || Ahead.anyWordOf ["fn", "unsafe", "extern"] tokens

/-- Takes a type, and tells whether it is written as it is given. Parameters that it holds for were
written from a position on, if any. -/
def typeContent (sums : Bool) (general : Option Nat) : Phrase (TypeForm × Bool) := do
  let plain (phrase : Phrase TypeForm) : Phrase (TypeForm × Bool) := return (← phrase, false)
  let tokens ← Phrase.ahead
  if Ahead.group .paren tokens then plain (groupedType rules sums)
  else if Ahead.anyWordOf ["fn", "unsafe", "extern"] tokens then plain (functionType rules)
  else if atBuiltIn tokens then
    builtIn
    return (.closed, true)
  else if atPath tokens then plain (namedType rules sums general)
  else if Ahead.word "dyn" tokens then objectType rules sums
  else if ← Phrase.takesWord "impl" then
    return (⟨.other, (← bounds rules .hidden sums).openEnd⟩, false)
  else if Ahead.group .bracket tokens then
    listType rules
    return (.closed, false)
  else if ← Phrase.takesMarks "*" then
    unless ← Phrase.takesWord "const" do Phrase.word "mut"
    plain (referredType rules)
  else if ← Phrase.takesMarks "&" then
    if Ahead.scopeName (← Phrase.ahead) then Phrase.scopeName
    discard (Phrase.takesWord "mut")
    plain (referredType rules)
  else if Ahead.scopeName tokens then
    return (⟨.other, (← bounds rules .object true).openEnd⟩, false)
  else
    unless ← Phrase.takesWord "_" do Phrase.marks "!"
    return (.closed, false)

/-- Takes a type; with `sums`, one of several joined by plus signs. -/
def typePhrase (sums : Bool) : Phrase TypeForm := do
  let (form, _) ← Phrase.asGivenIf (·.2) do
    let start ← Phrase.position
    if ← forParameters rules then
      Phrase.require (atGeneralType (← Phrase.ahead))
      typeContent rules sums (some start)
    else typeContent rules sums none
  return form

end

end WidgetTree.Markup.Host
