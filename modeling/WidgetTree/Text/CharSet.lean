namespace WidgetTree.Text

/-- A set of characters, as the ascending code points at which membership changes. -/
structure CharSet where
  boundaries : List Nat

namespace CharSet

/-- A character belongs to the set when membership has changed an odd number of times up to it. -/
def contains (set : CharSet) (c : Char) : Bool :=
  set.boundaries.countP (fun boundary => boundary ≤ c.toNat) % 2 == 1

end CharSet

end WidgetTree.Text
