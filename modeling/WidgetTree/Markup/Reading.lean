import WidgetTree.Markup.Element
import WidgetTree.Markup.Lexeme

namespace WidgetTree.Markup

/-- Reads the value of an attribute. -/
def readValue : List Token → Except MarkupError (AttributeValue × List Token)
  | .group .brace content :: rest =>
    if Host.beginsExpression content then .ok (.expression content, rest) else .error .malformed
  | .literal l :: rest => .ok (.literal l, rest)
  | .word "true" :: rest => .ok (.flag true, rest)
  | .word "false" :: rest => .ok (.flag false, rest)
  | .mark '-' _ :: .literal ⟨source, .integer n suffix⟩ :: rest =>
    .ok (.negative ⟨source, .integer n suffix⟩, rest)
  | .mark '-' _ :: .literal ⟨source, .decimal digits suffix⟩ :: rest =>
    .ok (.negative ⟨source, .decimal digits suffix⟩, rest)
  | _ => .error .malformed

/-- Reads an attribute with its qualifier, if it has one. -/
def readAttribute : List Token → Except MarkupError (Attribute × List Token)
  | .word qualifier :: .mark ':' _ :: .word name :: .mark '=' _ :: rest => do
    let (value, rest) ← readValue rest
    return (⟨some qualifier, name, value⟩, rest)
  | .word name :: .mark '=' _ :: rest => do
    let (value, rest) ← readValue rest
    return (⟨none, name, value⟩, rest)
  | _ => .error .malformed

/-- Reads the attributes of an element and the end of its opening tag, and tells whether the tag
closes the element too. An attribute takes tokens, so one step more than there are tokens are
enough. -/
def readAttributes : Nat → List Token → Except MarkupError ((List Attribute × Bool) × List Token)
  | 0, _ => .error .malformed
  | steps + 1, tokens =>
    match tokens with
    | .mark '/' _ :: .mark '>' _ :: rest => .ok (([], true), rest)
    | .mark '>' _ :: rest => .ok (([], false), rest)
    | _ => do
      let (first, rest) ← readAttribute tokens
      let ((others, closed), rest) ← readAttributes steps rest
      return ((first :: others, closed), rest)

/-- Reads the closing tag of an element behind its first two marks. -/
def readClosing (tag : String) : List Token → Except MarkupError (List Token)
  | .word name :: rest =>
    if !isName name then .error .malformed
    else if name ≠ tag then .error (.mismatchedTag tag name)
    else match rest with
      | .mark '>' _ :: rest => .ok rest
      | _ => .error .malformed
  | _ => .error .malformed

mutual

/-- Reads the element at the front of the tokens. An element takes tokens, so one step more than
there are tokens are enough. -/
def readElement : Nat → List Token → Except MarkupError (Element × List Token)
  | 0, _ => .error .malformed
  | steps + 1, .mark '<' _ :: .word tag :: rest =>
    if isName tag then do
      let ((attributes, closed), rest) ← readAttributes (rest.length + 1) rest
      if closed then return (.element tag attributes [] true, rest)
      else
        let (children, rest) ← readChildren steps tag rest
        return (.element tag attributes children false, rest)
    else .error .malformed
  | _ + 1, _ => .error .malformed

/-- Reads the elements inside another one up to its closing tag. -/
def readChildren : Nat → String → List Token → Except MarkupError (List Element × List Token)
  | 0, _, _ => .error .malformed
  | steps + 1, tag, tokens =>
    match tokens with
    | .mark '<' _ :: .mark '/' _ :: rest => do
      let rest ← readClosing tag rest
      return ([], rest)
    | .mark '<' _ :: _ => do
      let (child, rest) ← readElement steps tokens
      let (children, rest) ← readChildren steps tag rest
      return (child :: children, rest)
    | _ => .error (.childExpected tokens.isEmpty)

end

namespace Element

/-- The element at the front of the tokens, and the tokens behind it. -/
def atFront? (tokens : List Token) : Except MarkupError (Element × List Token) :=
  readElement (tokens.length + 1) tokens

/-- An element that was read, with what is wrong with it or behind it otherwise: first what stands
behind it, then what is left in braces. -/
def alone (behind : MarkupError) (reading : Element × List Token) : Except MarkupError Element :=
  if !reading.2.isEmpty then .error behind
  else if reading.1.isSound then .ok reading.1
  else .error .malformed

/-- The element that the tokens are. -/
def ofTokens? (tokens : List Token) : Except MarkupError Element := do
  alone .malformed (← atFront? tokens)

/-- The one element that the tokens are, with words for there being none or more. -/
def root? (tokens : List Token) : Except MarkupError Element :=
  if tokens.isEmpty then .error .empty
  else do alone .trailing (← atFront? tokens)

end Element

/-- The tokens of a text of markup. -/
def tokensOfText? (text : String) : Except MarkupError (List Token) :=
  match tokens? text with
  | some tokens => .ok tokens
  | none => .error .untokenizable

/-- The element that a text is. -/
def Element.ofText? (text : String) : Except MarkupError Element := do
  Element.ofTokens? (← tokensOfText? text)

end WidgetTree.Markup
