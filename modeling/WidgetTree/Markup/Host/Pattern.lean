import WidgetTree.Markup.Host.Field
import WidgetTree.Markup.Host.Path

namespace WidgetTree.Markup.Host

section

variable (rules : Rules)

/-- Whether the range of a pattern has no upper bound here. -/
def atBoundEnd (tokens : List Token) : Bool :=
  tokens.isEmpty || Ahead.anyMarks ["|", "=", ",", ";"] tokens ||
    Ahead.marks ":" tokens && !Ahead.marks "::" tokens || Ahead.word "if" tokens

/-- Takes a block whose value is known beforehand. -/
def constantBlock : Phrase Unit := do
  Phrase.word "const"
  bodyBlock rules

/-- Takes a value at the end of a range of values. -/
def rangeBound : Phrase PatternForm := do
  let tokens ← Phrase.ahead
  if Ahead.literal tokens then
    Phrase.literal
    return .other
  else if Ahead.word "const" tokens then
    constantBlock rules
    return .constant
  else
    Phrase.require (atPath tokens)
    discard (path rules .expression)
    return .other

/-- Takes the dots of a range behind its lower end, and tells whether its upper end belongs to it.
Three dots are an older way to say so, which is not written. -/
def olderRangeDots : Phrase Bool := do
  if ← Phrase.takesMarks "..=" then return true
  else if Ahead.marks "..." (← Phrase.ahead) then
    discard (Phrase.withheld (Phrase.marks "..."))
    Phrase.write [.mark '.' true, .mark '.' true, .mark '=' false]
    return true
  else
    Phrase.marks ".."
    return false

/-- Takes a range of values behind its lower end. -/
def rangeRest : Phrase PatternForm := do
  let closed ← olderRangeDots
  if atBoundEnd (← Phrase.ahead) then
    Phrase.require !closed
    return .openRange
  else
    discard (rangeBound rules)
    return .range

/-- Takes a range of values without a lower end, or two dots that stand for anything. -/
def rangeWithoutLower : Phrase PatternForm := do
  Phrase.require !(Ahead.marks "..." (← Phrase.ahead))
  let closed ← Phrase.takesMarks "..="
  unless closed do Phrase.marks ".."
  if atBoundEnd (← Phrase.ahead) then
    Phrase.require !closed
    return .other
  else
    discard (rangeBound rules)
    return .openRange

/-- Takes a pattern of one field of a structure behind its attributes. A field that is taken out of
its box is written as it is given. -/
def fieldPattern : Phrase Unit := do
  let boxed ← Phrase.takesWord "box"
  let reference ← Phrase.takesWord "ref"
  let mutable ← Phrase.takesWord "mut"
  if boxed || reference || mutable then Phrase.name
  else if Ahead.name (← Phrase.ahead) then
    Phrase.name
    if ← Phrase.takesMarks ":" then rules.alternatives
  else
    fieldPlace
    Phrase.marks ":"
    rules.alternatives

/-- Takes the fields of a structure, or two dots that stand for those not named; at most so many. -/
def fieldPatterns : Nat → Phrase Unit
  | 0 => pure ()
  | rounds + 1 => do
    unless ← Phrase.atEnd do
      attributes rules
      unless ← Phrase.takesMarks ".." do
        fieldPattern rules
        unless ← Phrase.atEnd do
          Phrase.marks ","
          fieldPatterns rounds

/-- Takes patterns between brackets. -/
def elementPatterns : Phrase Unit := .listedToEnd rules.alternatives

/-- Takes a pattern that begins with a path. -/
def pathPattern : Phrase PatternForm := do
  let named ← path rules .expression
  let tokens ← Phrase.ahead
  if named.isPlain && Ahead.exclamation tokens then
    Phrase.marks "!"
    discard Phrase.anyGroup
    return .other
  else if Ahead.group .brace tokens then
    Phrase.insideAtLeast .brace do fieldPatterns rules ((← Phrase.ahead).length + 1)
    return .other
  else if Ahead.group .paren tokens then
    .inside .paren (elementPatterns rules)
    return .other
  else if Ahead.marks ".." tokens then rangeRest rules
  else return .other

/-- Whether a pattern that begins with a path stands ahead. -/
def atPathPattern (tokens : List Token) : Bool :=
  let behind := tokens.drop 1
  let further := Ahead.marks "::" behind || Ahead.marks "!" behind || Ahead.group .brace behind ||
    Ahead.group .paren behind || Ahead.marks ".." behind
  Ahead.name tokens && further || Ahead.word "self" tokens && Ahead.marks "::" behind ||
    Ahead.anyMarks ["::", "<"] tokens || Ahead.anyWordOf ["Self", "super", "crate"] tokens

/-- Takes a name that is bound, with a pattern behind an at sign or not. -/
def namePattern : Phrase Unit := do
  discard (Phrase.takesWord "ref")
  discard (Phrase.takesWord "mut")
  unless ← Phrase.takesWord "self" do Phrase.name
  if ← Phrase.takesMarks "@" then discard (rules .pattern)

/-- Takes the patterns of the items of a list. A range among them has both ends. -/
def itemPatterns : Phrase Unit :=
  .listedToEnd do
    let form ← rules .alternatives
    Phrase.require (form ≠ .openRange)

/-- Takes a pattern that is none of a path. -/
def otherPattern : Phrase PatternForm := do
  let tokens ← Phrase.ahead
  let plain (phrase : Phrase Unit) : Phrase PatternForm := do
    phrase
    return .other
  if ← Phrase.takesWord "_" then return .other
  else if ← Phrase.takesWord "box" then
    discard (rules .pattern)
    return .asGiven
  else if Ahead.marks "-" tokens || Ahead.literal tokens || Ahead.word "const" tokens then
    let form ← rangeBound rules
    if Ahead.marks ".." (← Phrase.ahead) then rangeRest rules else return form
  else if Ahead.anyWordOf ["ref", "mut", "self"] tokens || Ahead.name tokens then
    plain (namePattern rules)
  else if ← Phrase.takesMarks "&" then plain do
    discard (Phrase.takesWord "mut")
    discard (rules .pattern)
  else if Ahead.group .paren tokens then plain (.inside .paren (elementPatterns rules))
  else if Ahead.group .bracket tokens then plain (.inside .bracket (itemPatterns rules))
  else rangeWithoutLower rules

/-- Takes a pattern without alternatives. -/
def patternPhrase : Phrase PatternForm := do
  if atPathPattern (← Phrase.ahead) then pathPattern rules
  else Phrase.asGivenIf (· = .asGiven) (otherPattern rules)

/-- Whether a further alternative stands ahead. -/
def atAlternative (tokens : List Token) : Bool :=
  Ahead.marks "|" tokens && !Ahead.anyMarks ["||", "|="] tokens

/-- Takes a pattern with its alternatives. -/
def alternativesPhrase : Phrase PatternForm := do
  let bar ← Phrase.takesMarks "|"
  let form ← rules .pattern
  if bar || atAlternative (← Phrase.ahead) then
    Phrase.repeated atAlternative do
      Phrase.marks "|"
      discard (rules .pattern)
    return .other
  else return form

end

end WidgetTree.Markup.Host
