import WidgetTree.Markup.Host.Pattern
import WidgetTree.Markup.Host.Statement

namespace WidgetTree.Markup.Host

/-- The rule of each category, given the rules for the phrases inside. -/
def rule (rules : Rules) : Rules
  | .expression place => expressionPhrase rules place
  | .operand place => operandPhrase rules place
  | .trailers form => trailersPhrase rules form
  | .operators place least left => operatorsPhrase rules place least left
  | .tighterOperators place than right => tighterOperatorsPhrase rules place than right
  | .leading => leadingPhrase rules
  | .statements => statementsPhrase rules
  | .declaration => declarationPhrase rules
  | .type sums => typePhrase rules sums
  | .arguments => argumentsPhrase rules
  | .bound place => boundPhrase rules place
  | .pattern => patternPhrase rules
  | .alternatives => alternativesPhrase rules

/-- The rules with so many levels of phrases inside each other. -/
def rulesTo : Nat → Rules
  | 0 => fun _ => failure
  | levels + 1 => rule (rulesTo levels)

/-- A number of levels that no phrase of these tokens exceeds. Between two tokens only so many
categories can begin in each other, so a number that grows with the number of tokens is enough. -/
def levels (tokens : List Token) : Nat := 16 * (Token.sizeOfAll tokens + 1)

/-- Where reading stands behind the expression at the front of the tokens, if there is one. -/
def behindExpression? (tokens : List Token) : Option Cursor :=
  ((rulesTo (levels tokens) (.expression .anywhere)).run { ahead := tokens }).map Prod.snd

/-- The tokens with the expression at their front in its plainest form. -/
def plainForm (tokens : List Token) : List Token :=
  match behindExpression? tokens with
  | some cursor => cursor.written.reverse ++ cursor.ahead
  | none => tokens

/-- Whether an expression stands at the front of the tokens. -/
def beginsExpression (tokens : List Token) : Bool := (behindExpression? tokens).isSome

/-- Whether the tokens are one expression, with nothing left in it or behind it. -/
def isExpression (tokens : List Token) : Bool :=
  (behindExpression? tokens).any fun cursor => cursor.complete && cursor.ahead.isEmpty

end WidgetTree.Markup.Host
