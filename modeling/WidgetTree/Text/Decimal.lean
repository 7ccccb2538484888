namespace WidgetTree.Text

/-- Which of two equally near points of a grid is taken. -/
inductive Tie
  /-- The greater one. -/
  | above
  /-- The one whose last digit is even. -/
  | even
deriving DecidableEq

/-- Whether the lower one of two equally near points of a grid is taken. -/
def Tie.lowers (tie : Tie) (below : Nat) : Bool := tie = .even && below % 2 == 0

/-- The exact magnitude of a finite double: `mantissa * 2 ^ exponent`. -/
structure Dyadic where
  mantissa : Nat
  exponent : Int
deriving DecidableEq

namespace Dyadic

/-- The magnitude that the fields of a double's bit pattern encode. -/
def ofBits (bits : UInt64) : Dyadic :=
  let fraction : Nat := bits.toNat % (1 <<< 52)
  let biased : Nat := bits.toNat / (1 <<< 52) % 2048
  if biased = 0 then ⟨fraction, -1074⟩ else ⟨fraction + (1 <<< 52), (biased : Int) - 1075⟩

/-- The distance below the magnitude, in quarters of the last place, within which a real still
rounds to it. It is halved where the place changes, at a power of two above the least one. -/
def slackBelow (x : Dyadic) : Nat :=
  if x.mantissa = 1 <<< 52 ∧ x.exponent ≠ -1074 then 1 else 2

/-- Numerator and denominator of `base ^ exponent`. -/
def powerFraction (base : Nat) (exponent : Int) : Nat × Nat :=
  (Nat.pow base exponent.toNat, Nat.pow base (-exponent).toNat)

/-- The magnitude, the reals that round to it and a grid of step `10 ^ place`, all in one unit. -/
structure Scaled where
  /-- The magnitude. -/
  value : Nat
  /-- The least real that may round to it. -/
  lower : Nat
  /-- The greatest real that may round to it. -/
  upper : Nat
  /-- The step of the grid. -/
  step : Nat

/-- Brings the interval of a magnitude and a decimal grid to a common unit. -/
def scaled (x : Dyadic) (place : Int) : Scaled :=
  let (binary, binaryUnit) := powerFraction 2 (x.exponent - 2)
  let (decimal, decimalUnit) := powerFraction 10 place
  let unit := binary * decimalUnit
  { value := 4 * x.mantissa * unit
    lower := (4 * x.mantissa - x.slackBelow) * unit
    upper := (4 * x.mantissa + 2) * unit
    step := decimal * binaryUnit }

/-- Whether a point of the grid rounds to the magnitude. The ends of the interval do when the
mantissa is even. -/
def Scaled.admits (s : Scaled) (even : Bool) (digits : Nat) : Bool :=
  let point := digits * s.step
  if even then s.lower ≤ point && point ≤ s.upper else s.lower < point && point < s.upper

/-- The nearest point of the grid `10 ^ place` that rounds to the magnitude, if the grid has one. -/
def onGrid? (x : Dyadic) (tie : Tie) (place : Int) : Option Nat :=
  let s := x.scaled place
  let even := x.mantissa % 2 == 0
  let below := s.value / s.step
  let above := below + 1
  match below ≠ 0 && s.admits even below, s.admits even above with
  | true, true =>
    let down := s.value - below * s.step
    let up := above * s.step - s.value
    if down < up || down == up && tie.lowers below then some below else some above
  | true, false => some below
  | false, true => some above
  | false, false => none

end Dyadic

/-- A positive decimal number `digits * 10 ^ place`. -/
structure Decimal where
  digits : Nat
  place : Int
deriving DecidableEq

namespace Decimal

/-- The places that a double's shortest decimal can end at, the coarsest first. -/
def places : List Int := (List.range 634).map fun (i : Nat) => 309 - (i : Int)

/-- The decimal of fewest digits that rounds to a positive magnitude. Its digits are those of the
coarsest power-of-ten grid that has a point among the reals that round to the double, and of two
such points the nearer one. -/
def shortest (x : Dyadic) (tie : Tie) : Decimal :=
  (places.findSome? fun place =>
    (x.onGrid? tie place).map fun digits => ⟨digits, place⟩).getD ⟨0, 0⟩

/-- The decimal digits, the leading one first. -/
def text (d : Decimal) : List Char := Nat.toDigits 10 d.digits

/-- The power of ten of the leading digit. -/
def magnitude (d : Decimal) : Int := d.place + d.text.length - 1

/-- The decisions that the value of a double leaves open. -/
structure Layout where
  /-- Which of two equally near decimals of the fewest digits is written. -/
  tie : Tie
  /-- The powers of ten of a leading digit that is written positionally, if not all are. -/
  positional : Option (Int × Int)
  /-- What a whole number written positionally ends with. -/
  wholeMark : List Char

namespace Layout

/-- Whether a leading digit of this power of ten is written positionally. -/
def admits (layout : Layout) (magnitude : Int) : Bool :=
  match layout.positional with
  | none => true
  | some (least, greatest) => least ≤ magnitude && magnitude ≤ greatest

/-- The digits with the point put where it belongs. -/
def positionally (layout : Layout) (d : Decimal) : List Char :=
  if 0 ≤ d.place then
    d.text ++ List.replicate d.place.toNat '0' ++ layout.wholeMark
  else if 0 ≤ d.magnitude then
    let whole := d.magnitude.toNat + 1
    d.text.take whole ++ '.' :: d.text.drop whole
  else
    ['0', '.'] ++ List.replicate (-d.magnitude - 1).toNat '0' ++ d.text

/-- One digit before the point, and the power of ten with its sign. -/
def scientifically (d : Decimal) : List Char :=
  let fraction := match d.text.drop 1 with
    | [] => []
    | rest => '.' :: rest
  let sign := if d.magnitude < 0 then '-' else '+'
  d.text.take 1 ++ fraction ++ 'e' :: sign :: Nat.toDigits 10 d.magnitude.natAbs

/-- A positive decimal in this layout. -/
def positive (layout : Layout) (d : Decimal) : List Char :=
  if layout.admits d.magnitude then layout.positionally d else scientifically d

/-- Any double in this layout. Zero keeps its sign, and a value that is no number has none. -/
def double (layout : Layout) (x : Float) : String :=
  let bits := x.toBits
  let magnitude :=
    if bits.toNat / (1 <<< 52) % 2048 = 2047 then ['i', 'n', 'f']
    else
      let exact := Dyadic.ofBits bits
      if exact.mantissa = 0 then '0' :: layout.wholeMark
      else layout.positive (shortest exact layout.tie)
  if x.isNaN then "NaN"
  else String.ofList (if bits.toNat / (1 <<< 63) = 1 then '-' :: magnitude else magnitude)

end Layout

end Decimal

end WidgetTree.Text
