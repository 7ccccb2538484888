import WidgetTree.Markup.Host.Category

namespace WidgetTree.Markup.Host

/-- Whether a path stands in an expression or in a type. In a type the segments of a path may have
arguments at once; in an expression a double colon stands in front of arguments, since an angle
bracket alone compares. -/
inductive PathStyle
  | expression
  | type
deriving DecidableEq

/-- The arguments that a segment of a path has. -/
inductive SegmentArguments
  | none
  /-- A pair of angle brackets with nothing between, from this position on. -/
  | empty (start : Nat)
  | some
deriving DecidableEq

/-- What matters about a path to what follows it. -/
structure PathForm where
  /-- It begins with a type in angle brackets. -/
  qualified : Bool
  /-- It begins with a double colon. -/
  rooted : Bool
  segments : Nat
  /-- Whether some segment has arguments, maybe none between the brackets. -/
  applied : Bool
  /-- The arguments of the last segment. -/
  last : SegmentArguments

namespace PathForm

/-- A path of one segment. -/
def single (qualified rooted : Bool) (arguments : SegmentArguments) : PathForm :=
  ⟨qualified, rooted, 1, arguments ≠ .none, arguments⟩

/-- The path with a segment more. -/
def push (path : PathForm) (arguments : SegmentArguments) : PathForm :=
  { path with
    segments := path.segments + 1
    applied := path.applied || arguments ≠ .none
    last := arguments }

/-- Whether the path is made of words only. -/
def isPlain (path : PathForm) : Bool := !path.qualified && !path.applied

/-- The kind of the type that the path names. -/
def typeKind (path : PathForm) : TypeKind :=
  if path.qualified then .other
  else if path.segments = 1 && !path.rooted then .name
  else .path

/-- Whether the last segment could still take arguments. -/
def openEnd (path : PathForm) : Bool := path.last = .none

end PathForm

/-- Words that name nothing but may stand in paths, without arguments. -/
def pathWords : List String := ["super", "self", "crate", "try"]

/-- Whether what stands two tokens on, behind a double colon, satisfies a condition. -/
def behindColons (condition : List Token → Bool) (tokens : List Token) : Bool :=
  Ahead.marks "::" tokens && condition (tokens.drop 2)

/-- Whether arguments in angle brackets stand ahead. -/
def atArguments (style : PathStyle) (tokens : List Token) : Bool :=
  style = .type && Ahead.marks "<" tokens && !Ahead.anyMarks ["<=", "<<="] tokens ||
    behindColons (Ahead.marks "<") tokens

/-- Whether a path may begin here. -/
def atPath (tokens : List Token) : Bool :=
  atPathWord tokens || Ahead.anyMarks ["::", "<"] tokens

/-- Whether arguments in round brackets stand ahead, maybe behind a double colon. -/
def atArgumentTypes (tokens : List Token) : Bool :=
  Ahead.group .paren tokens || behindColons (Ahead.group .paren) tokens

/-- Whether a value stands among arguments of a path. -/
def atValueArgument (tokens : List Token) : Bool :=
  Ahead.literal tokens || Ahead.group .brace tokens

section

variable (rules : Rules)

/-- Takes the result type behind an arrow, if one is given, and tells whether it could still take
arguments at its end. -/
def result (sums : Bool) : Phrase Bool := do
  if ← Phrase.takesMarks "->" then return (← rules (.type sums)).openEnd else return false

/-- Takes the types of arguments in round brackets and the result type, and tells whether it could
still take arguments at its end. -/
def argumentTypes : Phrase Bool := do
  .inside .paren (.listedToEnd rules.type)
  result rules false

/-- Takes a value among arguments of a path. -/
def valueArgument : Phrase Unit := do
  if Ahead.literal (← Phrase.ahead) then Phrase.literal else bodyBlock rules

/-- Takes what a named argument is set to or bounded by, if a name was taken. -/
def namedArgument : Phrase Unit := do
  if ← Phrase.takesMarks "=" then
    if atValueArgument (← Phrase.ahead) then valueArgument rules else rules.type
  else if ← Phrase.takesMarks ":" then
    Phrase.summed (Ahead.anyMarks [",", ">"]) (discard (rules (.bound .condition)))

/-- Takes one argument of a path, and tells whether it is a scope. -/
def argument : Phrase Bool := do
  let tokens ← Phrase.ahead
  if Ahead.scopeName tokens && !Ahead.marks "+" (Ahead.behind tokens) then
    Phrase.scopeName
    return true
  else if atValueArgument tokens then
    valueArgument rules
    return false
  else
    let form ← rules (.type true)
    if form.kind = .name then namedArgument rules
    return false

/-- Takes arguments in angle brackets, maybe behind a double colon, and tells whether there are
any. -/
def argumentsPhrase : Phrase Bool := do
  discard (Phrase.takesMarks "::")
  Phrase.marks "<"
  let any ← Phrase.entries (Ahead.marks ">") (argument rules)
  Phrase.marks ">"
  return any

/-- Takes a segment of a path. Behind some words no arguments may follow. -/
def segment (style : PathStyle) : Phrase SegmentArguments := do
  if Ahead.anyWordOf pathWords (← Phrase.ahead) then
    Phrase.anyWord
    return .none
  else
    unless ← Phrase.takesWord "Self" do Phrase.name
    if atArguments style (← Phrase.ahead) then
      let start ← Phrase.position
      return if ← rules .arguments then .some else .empty start
    else return .none

/-- Takes the segments of a path behind its first, as long as the condition holds; at most so
many. -/
def furtherSegments (style : PathStyle) (condition : List Token → Bool) (path : PathForm) :
    Nat → Phrase PathForm
  | 0 => return path
  | rounds + 1 => do
    if condition (← Phrase.ahead) then
      Phrase.marks "::"
      furtherSegments style condition (path.push (← segment rules style)) rounds
    else return path

/-- Takes a path of segments. It does not go on into arguments in round brackets. -/
def segmentsPath (style : PathStyle) : Phrase PathForm := do
  let rooted ← Phrase.takesMarks "::"
  let first ← segment rules style
  let goesOn (tokens : List Token) : Bool :=
    Ahead.marks "::" tokens && !behindColons (Ahead.group .paren) tokens
  furtherSegments rules style goesOn (.single false rooted first) (← Phrase.ahead).length

/-- Takes a path that begins with a type in angle brackets. -/
def qualifiedPath (style : PathStyle) : Phrase PathForm := do
  Phrase.marks "<"
  rules.type
  if ← Phrase.takesWord "as" then discard (segmentsPath rules .type)
  Phrase.marks ">"
  Phrase.marks "::"
  let path := PathForm.single true false (← segment rules style)
  furtherSegments rules style (Ahead.marks "::") path (← Phrase.ahead).length

/-- Takes a path. -/
def path (style : PathStyle) : Phrase PathForm := do
  if Ahead.marks "<" (← Phrase.ahead) then qualifiedPath rules style
  else segmentsPath rules style

end

end WidgetTree.Markup.Host
