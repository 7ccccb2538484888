import WidgetTree.Markup.Host.Type

namespace WidgetTree.Markup.Host

section

variable (rules : Rules)

/-- Whether a pair of round brackets ahead says where something declared can be seen. -/
def atVisibilityExtent : List Token → Bool
  | .group .paren [.word name] :: _ => ["crate", "self", "super"].contains name
  | _ => false

/-- Whether a path in round brackets ahead says where something declared can be seen. -/
def atVisibilityPath : List Token → Bool
  | .group .paren content :: _ => Ahead.word "in" content
  | _ => false

/-- Takes where something declared can be seen, if that is said, and tells whether it is. -/
def visibility : Phrase Bool := do
  if ← Phrase.takesWord "pub" then
    let tokens ← Phrase.ahead
    if atVisibilityExtent tokens then discard Phrase.anyGroup
    else if atVisibilityPath tokens then
      Phrase.insideAtLeast .paren do
        Phrase.word "in"
        plainPath
    return true
  else return false

/-- The tokens behind the word if it stands ahead. -/
def behindWord (name : String) (tokens : List Token) : List Token :=
  if Ahead.word name tokens then tokens.drop 1 else tokens

/-- The tokens behind the word for code from elsewhere and how it is called, if they stand ahead. -/
def behindConvention (tokens : List Token) : List Token :=
  if Ahead.word "extern" tokens then
    let behind := tokens.drop 1
    if Ahead.text behind then behind.drop 1 else behind
  else tokens

/-- Whether a function is declared here. With `vouched`, it may be said that it is safe. -/
def atFunction (vouched : Bool) (tokens : List Token) : Bool :=
  let behind := behindWord "async" (behindWord "const" tokens)
  let behind :=
    if vouched && Ahead.word "safe" behind then behind.drop 1 else behindWord "unsafe" behind
  Ahead.word "fn" (behindConvention behind)

/-- Takes the object that a function belongs to, as its first parameter. -/
def objectParameter : Phrase Unit := do
  let referred ← Phrase.takesMarks "&"
  if referred && Ahead.scopeName (← Phrase.ahead) then Phrase.scopeName
  discard (Phrase.takesWord "mut")
  Phrase.word "self"
  unless referred do
    if ← Phrase.takesMarks ":" then rules.type

/-- Takes the object that a function belongs to if it stands ahead, and tells whether it does. -/
def takesObjectParameter : Phrase Bool :=
  (do
    objectParameter rules
    return true) <|> return false

/-- Takes a parameter of a function behind its attributes, and tells whether it stands for any
further ones. In front of a type alone a pattern for anything is written. -/
def functionParameter (first : Bool) : Phrase Bool := do
  if ← takesObjectParameter rules then
    Phrase.require first
    return false
  else
    let tokens ← Phrase.ahead
    if Ahead.name tokens && Ahead.marks "<" (tokens.drop 1) then
      Phrase.write [.word "_", .mark ':' false]
      rules.type
      return false
    else
      discard (rules .pattern)
      Phrase.marks ":"
      if ← Phrase.takesMarks "..." then return true
      else
        rules.type
        return false

/-- Takes the parameters of a function, at most so many. -/
def functionParameters (first : Bool) : Nat → Phrase Unit
  | 0 => pure ()
  | rounds + 1 => do
    unless ← Phrase.atEnd do
      attributes rules
      let dots ← Phrase.takesMarks "..."
      let further ← if dots then pure true else functionParameter rules first
      unless ← Phrase.atEnd do
        Phrase.marks ","
        unless further do functionParameters false rounds

/-- Takes what is said of a function in front of its body, and tells whether it is said to be safe,
which it may be with `vouched`. -/
def signature (vouched : Bool) : Phrase Bool := do
  discard (Phrase.takesWord "const")
  discard (Phrase.takesWord "async")
  let safe ← if ← Phrase.takesWord "unsafe" then pure false
    else if vouched then Phrase.takesWord "safe"
    else pure false
  if Ahead.word "extern" (← Phrase.ahead) then convention
  Phrase.word "fn"
  Phrase.name
  discard (parameters rules)
  Phrase.insideAtLeast .paren do functionParameters rules true ((← Phrase.ahead).length + 1)
  discard (result rules true)
  discard (whereConditions rules)
  return safe

/-- Takes a function with its body or a semicolon instead, and tells whether it has a body. -/
def function : Phrase Bool := do
  discard (signature rules false)
  if ← Phrase.takesMarks ";" then return false
  else
    bodyBlock rules
    return true

/-- What is said of a constant. -/
structure ConstantForm where
  /-- Whether it has parameters or conditions on types. -/
  general : Bool
  valued : Bool

/-- Takes a constant. -/
def constant : Phrase ConstantForm := do
  Phrase.word "const"
  unless ← Phrase.takesWord "_" do Phrase.name
  let applied ← parameters rules
  Phrase.marks ":"
  rules.type
  let valued ← Phrase.takesMarks "="
  if valued then rules.expression
  let conditioned ← whereConditions rules
  Phrase.marks ";"
  return ⟨applied || conditioned, valued⟩

/-- Where the conditions on types stand in what names a type. -/
inductive ConditionsPlace
  | beforeDefinition
  | behindDefinition
  | either
deriving DecidableEq

/-- What is said of the name of a type. -/
structure AliasForm where
  bounded : Bool
  defined : Bool

/-- Whether the bounds of the name of a type end here. -/
def atAliasEnd (tokens : List Token) : Bool :=
  Ahead.word "where" tokens || Ahead.anyMarks ["=", ";"] tokens

/-- Takes the name of a type with its bounds and its definition. -/
def typeAlias (place : ConditionsPlace) : Phrase AliasForm := do
  Phrase.word "type"
  Phrase.name
  discard (parameters rules)
  let bounded := Ahead.marks ":" (← Phrase.ahead)
  if bounded then Phrase.introduced (Phrase.marks ":") (conditions rules atAliasEnd)
  let conditioned ← if place = .behindDefinition then pure false else whereConditions rules
  let defined ← Phrase.takesMarks "="
  if defined then rules.type
  unless conditioned || place = .beforeDefinition do discard (whereConditions rules)
  Phrase.marks ";"
  return ⟨bounded, defined⟩

/-- Whether the call of a rule of expansion may stand here. -/
def atExpansion (tokens : List Token) : Bool :=
  Ahead.name tokens || Ahead.anyWordOf ["self", "super", "crate"] tokens || Ahead.marks "::" tokens

/-- Takes the call of a rule of expansion as a member, with a semicolon unless it ends with a
brace. -/
def expansionMember : Phrase Unit := do
  unless (← expansion) = .brace do Phrase.marks ";"

/-- Takes a member of what types provide behind where it can be seen, and tells whether it is
written as it is given. -/
def providedMember (bare : Bool) : Phrase Bool := do
  let tokens ← Phrase.ahead
  if atFunction false tokens then
    discard (function rules)
    return false
  else if Ahead.word "const" tokens then return (← constant rules).general
  else if Ahead.word "type" tokens then
    discard (typeAlias rules .behindDefinition)
    return false
  else
    Phrase.require (bare && atExpansion tokens)
    expansionMember
    return false

/-- Takes a member of what types provide. -/
def traitMember : Phrase Unit :=
  discard <| Phrase.asGivenIf id do
    attributes rules
    let visible ← visibility
    let preset ← Phrase.takesWord "default"
    let asGiven ← providedMember rules (!visible && !preset)
    return asGiven || visible || preset

/-- Takes a member that a type is given. -/
def implementedMember : Phrase Unit :=
  discard <| Phrase.asGivenIf id do
    attributes rules
    let visible ← visibility
    let tokens ← Phrase.ahead
    let preset := Ahead.word "default" tokens && !Ahead.marks "!" (tokens.drop 1)
    if preset then Phrase.word "default"
    let tokens ← Phrase.ahead
    if atFunction false tokens then return !(← function rules)
    else if Ahead.word "const" tokens then
      let form ← constant rules
      return form.general || !form.valued
    else if Ahead.word "type" tokens then
      let form ← typeAlias rules .behindDefinition
      return form.bounded || !form.defined
    else
      Phrase.require (!visible && !preset && atExpansion tokens)
      expansionMember
      return false

/-- Takes a function from elsewhere, and tells whether it is written as it is given. -/
def foreignFunction : Phrase Bool := do
  let safe ← signature rules true
  if ← Phrase.takesMarks ";" then return safe
  else
    bodyBlock rules
    return true

/-- Whether a variable from elsewhere is declared here. -/
def atForeignVariable (tokens : List Token) : Bool :=
  Ahead.word "static" tokens ||
    Ahead.anyWordOf ["unsafe", "safe"] tokens && Ahead.word "static" (tokens.drop 1)

/-- Takes a variable from elsewhere, and tells whether it is written as it is given. -/
def foreignVariable : Phrase Bool := do
  let doubted ← Phrase.takesWord "unsafe"
  let safe ← Phrase.takesWord "safe"
  Phrase.word "static"
  discard (Phrase.takesWord "mut")
  Phrase.name
  Phrase.marks ":"
  rules.type
  let valued ← Phrase.takesMarks "="
  if valued then rules.expression
  Phrase.marks ";"
  return doubted || safe || valued

/-- Takes a member from elsewhere. -/
def foreignMember : Phrase Unit :=
  discard <| Phrase.asGivenIf id do
    attributes rules
    let visible ← visibility
    let tokens ← Phrase.ahead
    if atFunction true tokens then foreignFunction rules
    else if atForeignVariable tokens then foreignVariable rules
    else if Ahead.word "type" tokens then
      let form ← typeAlias rules .either
      return form.bounded || form.defined
    else
      Phrase.require (!visible && atExpansion tokens)
      expansionMember
      return false

/-- Takes members in braces. -/
def members (member : Phrase Unit) : Phrase Unit :=
  .inside .brace do
    innerAttributes rules
    Phrase.repeated (!·.isEmpty) member

end

end WidgetTree.Markup.Host
