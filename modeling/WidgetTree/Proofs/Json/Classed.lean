import Mathlib.Tactic.NormNum
import Mathlib.Tactic.SplitIfs
import WidgetTree.Proofs.Json.Whole

namespace WidgetTree.Json

namespace Number

/-- The number is within the bounds of its class. An integer is exact where it fits in 64 bits, with
or without a sign, and any other number is a double. -/
def Classed : Number → Prop
  | natural number => number < 2 ^ 64
  | negative number => -2 ^ 63 ≤ number ∧ number < 0
  | real _ => True

instance : DecidablePred Classed
  | natural number => inferInstanceAs (Decidable (number < 2 ^ 64))
  | negative number => inferInstanceAs (Decidable (-2 ^ 63 ≤ number ∧ number < 0))
  | real _ => inferInstanceAs (Decidable True)

end Number

/-- Each number in the document is within the bounds of its class. -/
inductive Document.Classed : Document → Prop
  | null : Classed .null
  | bool (flag : Bool) : Classed (.bool flag)
  | number {number : Number} (hclassed : number.Classed) : Classed (.number number)
  | string (text : String) : Classed (.string text)
  | list {items : List Document} (fault : Option Fault) (hitems : ∀ item ∈ items, Classed item) :
      Classed (.list items fault)
  | object {members : List (Except Fault String × Document)} (fault : Option Fault)
      (hmembers : ∀ member ∈ members, Classed member.2) : Classed (.object members fault)
  | broken (fault : Fault) : Classed (.broken fault)

end WidgetTree.Json
