import WidgetTree.Markup.Phrase

namespace WidgetTree.Markup.Host

/-- The token of the number of a field, in plain decimal digits. -/
def fieldPlace? : LiteralValue → Option Token
  | .integer n "" => if n < 1 <<< 32 then some (.literal ⟨toString n, .integer n ""⟩) else none
  | _ => none

/-- The token of the number of a field that all of a text spells. A field of such a field looks like
one number with a point; in its plainest form it is two numbers in decimal digits with a point
between. -/
def fieldPlaceOf? (cs : List Char) : Option Token :=
  match number? cs with
  | some (value, []) => fieldPlace? value
  | _ => none

/-- The parts of a text between points. -/
def pointParts : List Char → List (List Char)
  | [] => [[]]
  | c :: cs =>
    match pointParts cs with
    | [] => [[c]]
    | part :: parts => if c = '.' then [] :: part :: parts else (c :: part) :: parts

/-- The numbers of fields and the points that a number with a point is made of, if a field is taken
from a field. The last one may be missing. -/
def fieldPlaces? (source : String) : Option (List Token × Bool) := do
  let parts := pointParts source.toList
  let unfinished := parts.getLast? == some []
  let places ← (if unfinished then parts.dropLast else parts).mapM fieldPlaceOf?
  let tokens := places.intersperse (.mark '.' false)
  return (if unfinished then tokens ++ [.mark '.' false] else tokens, unfinished)

/-- Takes the number of a field. -/
def fieldPlace : Phrase Unit := do
  match ← Phrase.ahead with
  | .literal l :: rest =>
    match fieldPlace? l.value with
    | some place => Phrase.replace [place] rest
    | none => failure
  | _ => failure

end WidgetTree.Markup.Host
