import WidgetTree.Markup.Host.Path

namespace WidgetTree.Markup.Host

section

variable (rules : Rules)

/-- Takes a constant among parameters: a value or the name of one. -/
def constantArgument : Phrase Unit := do
  if Ahead.name (← Phrase.ahead) then Phrase.name else valueArgument rules

/-- Whether a list of bounds of a parameter ends here. -/
def atParameterEnd (tokens : List Token) : Bool :=
  tokens.isEmpty || Ahead.anyMarks [",", ">", "="] tokens

/-- Takes bounds in a condition on a type, up to where it ends. -/
def conditions (stop : List Token → Bool) : Phrase Unit :=
  Phrase.summed stop (discard (rules (.bound .condition)))

/-- Takes a parameter behind its attributes, and tells whether it is a scope. -/
def parameterContent : Phrase Bool := do
  if Ahead.scopeName (← Phrase.ahead) then
    Phrase.scopeName
    if Ahead.marks ":" (← Phrase.ahead) then
      Phrase.introduced (Phrase.marks ":") (Phrase.summed atParameterEnd Phrase.scopeName)
    return true
  else if ← Phrase.takesWord "const" then
    Phrase.name
    Phrase.marks ":"
    rules.type
    if ← Phrase.takesMarks "=" then constantArgument rules
    return false
  else
    Phrase.name
    if Ahead.marks ":" (← Phrase.ahead) then
      Phrase.introduced (Phrase.marks ":") (conditions rules atParameterEnd)
    if ← Phrase.takesMarks "=" then rules.type
    return false

/-- Takes a parameter, and tells whether it is a scope. -/
def parameter : Phrase Bool := do
  attributes rules
  parameterContent rules

/-- Takes parameters that a phrase holds for, if any are given, and tells whether they are. They are
written in the order given. -/
def forParameters : Phrase Bool := do
  if ← Phrase.takesWord "for" then
    Phrase.marks "<"
    Phrase.listed (Ahead.marks ">") (discard (parameter rules))
    Phrase.marks ">"
    return true
  else return false

/-- Takes parameters in angle brackets, if any brackets are given, and tells whether they are. -/
def parameters : Phrase Bool := do
  if Ahead.marks "<" (← Phrase.ahead) then
    let start ← Phrase.position
    Phrase.marks "<"
    let any ← Phrase.entries (Ahead.marks ">") do
      attributes rules
      if ← Phrase.takesWord "_" then return false else parameterContent rules
    Phrase.marks ">"
    unless any do Phrase.revise start fun _ => []
    return true
  else return false

/-- Whether parameters follow behind an angle bracket ahead, and not a path that begins with a
type. -/
def atParameters (tokens : List Token) : Bool :=
  let behind := Ahead.behind tokens
  let further := Ahead.behind behind
  Ahead.marks "<" tokens &&
    (Ahead.anyMarks [">", "#"] behind || Ahead.word "const" behind ||
      (Ahead.scopeName behind || Ahead.name behind) &&
        (Ahead.anyMarks [">", ",", "="] further ||
          Ahead.marks ":" further && !Ahead.marks "::" further))

/-- Whether parameters that a phrase holds for stand ahead. -/
def atForParameters (tokens : List Token) : Bool :=
  Ahead.word "for" tokens && atParameters (tokens.drop 1)

/-- Whether the conditions on types end here. -/
def atConditionsEnd (tokens : List Token) : Bool :=
  tokens.isEmpty || Ahead.group .brace tokens || Ahead.anyMarks [";", "="] tokens ||
    Ahead.marks ":" tokens && !Ahead.marks "::" tokens

/-- Whether one of several conditions on types ends here. -/
def atConditionEnd (tokens : List Token) : Bool :=
  atConditionsEnd tokens || Ahead.marks "," tokens

/-- Takes one condition on a type or a scope. -/
def whereCondition : Phrase Unit := do
  let tokens ← Phrase.ahead
  if Ahead.scopeName tokens && Ahead.marks ":" (Ahead.behind tokens) then
    Phrase.scopeName
    Phrase.marks ":"
    Phrase.summed atConditionEnd Phrase.scopeName
  else
    discard (forParameters rules)
    rules.type
    Phrase.marks ":"
    conditions rules atConditionEnd

/-- Takes the conditions on types, if they are given, and tells whether they are. -/
def whereConditions : Phrase Bool := do
  if Ahead.word "where" (← Phrase.ahead) then
    Phrase.introduced (Phrase.word "where")
      (Phrase.listed atConditionsEnd (whereCondition rules))
    return true
  else return false

/-- Takes the names that a type captures, scopes and others. -/
def captures : Phrase Unit := do
  Phrase.word "use"
  Phrase.marks "<"
  discard <| Phrase.entries (Ahead.marks ">") do
    if Ahead.scopeName (← Phrase.ahead) then
      Phrase.scopeName
      return true
    else
      unless ← Phrase.takesWord "Self" do Phrase.name
      return false
  Phrase.marks ">"

/-- Takes what a type provides: a path, with the types of arguments or not. An empty pair of angle
brackets in front of these is not written. Tells whether it could still take arguments at its end.
-/
def providedPath : Phrase Bool := do
  let path ← segmentsPath rules .type
  if path.last ≠ .some && atArgumentTypes (← Phrase.ahead) then
    if let .empty start := path.last then Phrase.revise start fun _ => []
    discard (Phrase.withheld (Phrase.takesMarks "::"))
    argumentTypes rules
  else return path.openEnd

/-- What something provided is like. -/
structure Provision where
  /-- Whether it is provided for constants, which is written as it is given. -/
  constant : Bool
  openEnd : Bool

/-- Takes something that a type provides. -/
def provision (place : BoundPlace) : Phrase Provision := do
  let general ← forParameters rules
  let bracketed := Ahead.group .bracket (← Phrase.ahead)
  if bracketed then Phrase.insideAtLeast .bracket (Phrase.word "const")
  let constant ← if bracketed then pure true else Phrase.takesWord "const"
  Phrase.require !(constant && place = .object)
  let doubted ← Phrase.takesMarks "?"
  Phrase.require !(doubted && (general || Ahead.word "for" (← Phrase.ahead)))
  return ⟨constant, ← providedPath rules⟩

/-- Takes a bound of a type. -/
def boundPhrase (place : BoundPlace) : Phrase BoundForm := do
  let tokens ← Phrase.ahead
  if Ahead.scopeName tokens then
    Phrase.scopeName
    return ⟨false, false⟩
  else if Ahead.word "use" tokens then
    Phrase.require (place = .hidden)
    captures
    return ⟨false, false⟩
  else
    let provided ← Phrase.asGivenIf (·.constant) <|
      if Ahead.group .paren tokens then Phrase.insideAtLeast .paren (provision rules place)
      else provision rules place
    return ⟨true, provided.openEnd && !provided.constant⟩

/-- Whether a bound may stand behind a plus sign here. -/
def atBound (place : BoundPlace) (tokens : List Token) : Bool :=
  Ahead.anyWord tokens || Ahead.anyMarks ["::", "?"] tokens || Ahead.scopeName tokens ||
    Ahead.group .paren tokens || place ≠ .object && Ahead.group .bracket tokens

/-- Takes the bounds behind a first one, if a plus sign joins more; at most so many. A plus sign may
stand behind the last bound unless every plus sign has to join. Tells about all bounds whether one
of them is something to provide, and how the last one ends. -/
def furtherBounds (place : BoundPlace) (joins : Bool) (bounds : BoundForm) :
    Nat → Phrase BoundForm
  | 0 => return bounds
  | rounds + 1 => do
    if ← Phrase.takesMarks "+" then
      if joins || atBound place (← Phrase.ahead) then
        let next ← rules (.bound place)
        furtherBounds place joins ⟨bounds.provides || next.provides, next.openEnd⟩ rounds
      else return bounds
    else return bounds

/-- Takes bounds of which one has to be something to provide: one bound only without `sums`. -/
def bounds (place : BoundPlace) (sums : Bool) : Phrase BoundForm := do
  let first ← rules (.bound place)
  let all ← if sums then furtherBounds rules place false first (← Phrase.ahead).length
    else pure first
  Phrase.require all.provides
  return all

end

end WidgetTree.Markup.Host
