import WidgetTree.Markup.Host.Member

namespace WidgetTree.Markup.Host

section

variable (rules : Rules)

/-- Takes a word for another name, or for no name. -/
def otherName : Phrase Unit := do
  unless ← Phrase.takesWord "_" do Phrase.name

/-- Takes phrases with commas between them, and maybe behind the last, up to the end, at most so
many. Tells whether one of them says so of itself. -/
def anyListed (phrase : Phrase Bool) : Nat → Phrase Bool
  | 0 => failure
  | rounds + 1 => do
    if ← Phrase.atEnd then return false
    else
      let first ← phrase
      if ← Phrase.atEnd then return first
      else
        Phrase.marks ","
        let rest ← anyListed phrase rounds
        return first || rest

/-- Takes names that are imported, in braces inside each other so many levels deep. With `rootable`,
those in braces may begin with double colons; tells whether some do. -/
def importedNames : Nat → Bool → Phrase Bool
  | 0, _ => failure
  | levels + 1, rootable => do
    let tokens ← Phrase.ahead
    if Ahead.group .brace tokens then
      .inside .brace do
        let one : Phrase Bool := do
          let rooted ← if rootable then Phrase.takesMarks "::" else pure false
          let inside ← importedNames levels (rootable && !rooted)
          return rooted || inside
        anyListed one ((← Phrase.ahead).length + 1)
    else if ← Phrase.takesMarks "*" then return false
    else
      Phrase.require (Ahead.name tokens || Ahead.anyWordOf pathWords tokens)
      Phrase.anyWord
      if ← Phrase.takesMarks "::" then importedNames levels false
      else
        if ← Phrase.takesWord "as" then otherName
        return false

/-- Takes names that are imported, and tells whether they are written as they are given. -/
def imports : Phrase Bool := do
  Phrase.word "use"
  let rooted ← Phrase.takesMarks "::"
  let asGiven ← importedNames (Token.sizeOfAll (← Phrase.ahead) + 1) !rooted
  Phrase.marks ";"
  return asGiven

/-- Takes the name of a library, and another name for it or not. -/
def library : Phrase Unit := do
  Phrase.word "extern"
  Phrase.word "crate"
  unless ← Phrase.takesWord "self" do Phrase.name
  if ← Phrase.takesWord "as" then otherName
  Phrase.marks ";"

/-- Takes what is declared elsewhere. -/
def foreignMembers : Phrase Unit := do
  discard (Phrase.takesWord "unsafe")
  convention
  members rules (foreignMember rules)

/-- Takes a variable that is there all the time, and tells whether it is written as it is given,
which it is without a type or a value. -/
def staticVariable : Phrase Bool := do
  Phrase.word "static"
  discard (Phrase.takesWord "mut")
  Phrase.name
  let typed := !Ahead.marks "=" (← Phrase.ahead)
  if typed then
    Phrase.marks ":"
    rules.type
  let valued := !typed || !Ahead.marks ";" (← Phrase.ahead)
  if valued then
    Phrase.marks "="
    rules.expression
  Phrase.marks ";"
  return !typed || !valued

/-- Takes fields with names, in braces inside each other so many levels deep. Fields of a field
without a name are written as they are given. -/
def namedFields : Nat → Phrase Unit
  | 0 => failure
  | levels + 1 =>
    .inside .brace <| .listedToEnd do
      attributes rules
      discard visibility
      let unnamed ← Phrase.takesWord "_"
      unless unnamed do Phrase.name
      Phrase.marks ":"
      let tokens ← Phrase.ahead
      let nested := Ahead.word "struct" tokens ||
        Ahead.word "union" tokens && Ahead.group .brace (tokens.drop 1)
      if unnamed && nested then
        Phrase.asGivenIf (fun _ => true) do
          Phrase.anyWord
          namedFields levels
      else rules.type

/-- Takes fields with names. -/
def fields : Phrase Unit := do namedFields rules (Token.sizeOfAll (← Phrase.ahead) + 1)

/-- Takes fields without names. -/
def places : Phrase Unit :=
  .inside .paren <| .listedToEnd do
    attributes rules
    discard visibility
    rules.type

/-- Takes the name of a type that is declared, with its parameters. -/
def typeHead : Phrase Unit := do
  Phrase.name
  discard (parameters rules)

/-- Takes a structure. -/
def structureDeclaration : Phrase Unit := do
  Phrase.word "struct"
  typeHead rules
  let conditioned ← whereConditions rules
  let tokens ← Phrase.ahead
  if Ahead.group .paren tokens && !conditioned then
    places rules
    discard (whereConditions rules)
    Phrase.marks ";"
  else if Ahead.group .brace tokens then fields rules
  else Phrase.marks ";"

/-- Takes a union. -/
def unionDeclaration : Phrase Unit := do
  Phrase.word "union"
  typeHead rules
  discard (whereConditions rules)
  fields rules

/-- Takes an alternative of an enumeration. Where it can be seen is not written. -/
def alternative : Phrase Unit := do
  attributes rules
  discard (Phrase.withheld visibility)
  Phrase.name
  let tokens ← Phrase.ahead
  if Ahead.group .brace tokens then fields rules
  else if Ahead.group .paren tokens then places rules
  if ← Phrase.takesMarks "=" then rules.expression

/-- Takes an enumeration. -/
def enumeration : Phrase Unit := do
  Phrase.word "enum"
  typeHead rules
  discard (whereConditions rules)
  .inside .brace (.listedToEnd (alternative rules))

/-- Whether the bounds end here of what a type also has to provide. -/
def atTraitBody (tokens : List Token) : Bool :=
  Ahead.word "where" tokens || Ahead.group .brace tokens

/-- Takes what types provide: its members, or another name for several bounds. -/
def traitDeclaration : Phrase Unit := do
  let doubted ← Phrase.takesWord "unsafe"
  let automatic ← Phrase.takesWord "auto"
  Phrase.word "trait"
  typeHead rules
  if !doubted && !automatic && Ahead.marks "=" (← Phrase.ahead) then
    Phrase.marks "="
    conditions rules fun tokens => Ahead.word "where" tokens || Ahead.marks ";" tokens
    discard (whereConditions rules)
    Phrase.marks ";"
  else
    if Ahead.marks ":" (← Phrase.ahead) then
      Phrase.introduced (Phrase.marks ":") (conditions rules atTraitBody)
    discard (whereConditions rules)
    members rules (traitMember rules)

/-- Takes a sign that a type does not provide something, if one stands ahead. -/
def takesDenial : Phrase Bool := do
  let tokens ← Phrase.ahead
  if Ahead.marks "!" tokens && !Ahead.group .brace (tokens.drop 1) then Phrase.takesMarks "!"
  else return false

/-- Takes a word that what is given is given for constants, if it stands ahead. -/
def takesConstancy : Phrase Bool := do
  let tokens ← Phrase.ahead
  if Ahead.marks "?" tokens && Ahead.word "const" (tokens.drop 1) then Phrase.marks "?"
  Phrase.takesWord "const"

/-- Takes what a type is given, and tells whether it is written as it is given: if it is given for
constants, or if what is provided is not named by a path. Only what is provided can be denied. -/
def implementation : Phrase Bool := do
  discard (Phrase.takesWord "default")
  discard (Phrase.takesWord "unsafe")
  Phrase.word "impl"
  if atParameters (← Phrase.ahead) then discard (parameters rules)
  let constant ← takesConstancy
  let denied ← takesDenial
  let first ← rules (.type true)
  let provided ← Phrase.takesWord "for"
  Phrase.require (provided || !denied)
  if provided then rules.type
  discard (whereConditions rules)
  members rules (implementedMember rules)
  return constant || provided && first.kind ≠ .name && first.kind ≠ .path

/-- Takes a module: its declarations, or a semicolon if they stand elsewhere. -/
def moduleDeclaration : Phrase Unit := do
  discard (Phrase.takesWord "unsafe")
  Phrase.word "mod"
  unless ← Phrase.takesWord "try" do Phrase.name
  unless ← Phrase.takesMarks ";" do members rules (rules .declaration)

/-- Takes a rule of expansion with its parameters, or without. -/
def expansionRule : Phrase Unit := do
  Phrase.word "macro"
  Phrase.name
  if Ahead.group .paren (← Phrase.ahead) then discard Phrase.anyGroup
  Phrase.require ((← Phrase.anyGroup) = .brace)

/-- Takes the call of a rule of expansion as a declaration, of a name or not. It ends with a
semicolon unless it ends with a brace. -/
def expansionDeclaration : Phrase Unit := do
  plainPath
  Phrase.marks "!"
  unless ← Phrase.takesWord "try" do
    if Ahead.name (← Phrase.ahead) then Phrase.name
  unless (← Phrase.anyGroup) = .brace do Phrase.marks ";"

/-- Whether what types provide is declared here. -/
def atTrait (tokens : List Token) : Bool :=
  let behind := behindWord "unsafe" tokens
  Ahead.word "trait" behind || Ahead.word "auto" behind && Ahead.word "trait" (behind.drop 1)

/-- Whether what a type is given is declared here. -/
def atImplementation (tokens : List Token) : Bool :=
  Ahead.word "impl" (behindWord "unsafe" tokens) ||
    Ahead.word "default" tokens && !Ahead.marks "!" (tokens.drop 1)

/-- Whether what is declared elsewhere stands here. -/
def atForeignMembers (tokens : List Token) : Bool :=
  let certain := Ahead.word "extern" tokens && Ahead.group .brace (behindConvention tokens)
  certain || Ahead.word "unsafe" tokens && Ahead.word "extern" (tokens.drop 1)

/-- Takes a declaration of data or a type, and tells whether it is written as it is given. -/
def dataDeclaration : Phrase Bool := do
  let tokens ← Phrase.ahead
  let plain (phrase : Phrase Unit) : Phrase Bool := do
    phrase
    return false
  if Ahead.word "static" tokens then staticVariable rules
  else if Ahead.word "const" tokens then
    let form ← constant rules
    return form.general || !form.valued
  else if Ahead.word "type" tokens then
    let form ← typeAlias rules .beforeDefinition
    return form.bounded || !form.defined
  else if Ahead.word "struct" tokens then plain (structureDeclaration rules)
  else if Ahead.word "enum" tokens then plain (enumeration rules)
  else plain (unionDeclaration rules)

/-- Whether data or a type is declared here. -/
def atData (tokens : List Token) : Bool :=
  Ahead.anyWordOf ["static", "const", "type", "struct", "enum"] tokens ||
    Ahead.word "union" tokens && Ahead.name (tokens.drop 1)

/-- Takes a declaration behind its attributes, and tells whether it is written as it is given. -/
def declarationContent : Phrase Bool := do
  let visible ← visibility
  let tokens ← Phrase.ahead
  let plain (phrase : Phrase Unit) : Phrase Bool := do
    phrase
    return false
  if atFunction false tokens then return !(← function rules)
  else if Ahead.word "extern" tokens && Ahead.word "crate" (tokens.drop 1) then plain library
  else if !visible && atForeignMembers tokens then plain (foreignMembers rules)
  else if Ahead.word "use" tokens then imports
  else if atData tokens then dataDeclaration rules
  else if atTrait tokens then plain (traitDeclaration rules)
  else if atImplementation tokens then return (← implementation rules) || visible
  else if Ahead.word "mod" (behindWord "unsafe" tokens) then plain (moduleDeclaration rules)
  else if Ahead.word "macro" tokens then
    expansionRule
    return true
  else
    Phrase.require (!visible && atExpansion tokens)
    plain expansionDeclaration

/-- Takes a declaration with its attributes. -/
def declarationPhrase : Phrase Unit :=
  discard <| Phrase.asGivenIf id do
    attributes rules
    declarationContent rules

end

end WidgetTree.Markup.Host
