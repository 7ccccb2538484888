import WidgetTree.Json.Document

namespace WidgetTree.Json

/-- Digits read so far: the digits kept and the power of ten of the last of them. An integer within
range is exact. Any other number keeps as many leading digits as fit in 64 bits and is scaled by a
power of ten in double arithmetic, which may differ from the nearest double in the last place. -/
structure Significand where
  digits : Nat
  place : Int
  /-- A digit was met that did not fit. -/
  full : Bool

namespace Significand

/-- Whether one more digit still fits in 64 bits. -/
def fits (s : Significand) (digit : Nat) : Bool := s.digits * 10 + digit < 1 <<< 64

/-- One more digit before the point. From the first that does not fit, digits only count. -/
def pushWhole (s : Significand) (digit : Nat) : Significand :=
  if s.full || !s.fits digit then ⟨s.digits, s.place + 1, true⟩
  else ⟨s.digits * 10 + digit, 0, false⟩

/-- One more digit behind the point. From the first that does not fit, digits are dropped. -/
def pushFraction (s : Significand) (digit : Nat) : Significand :=
  if s.full || !s.fits digit then { s with full := true }
  else ⟨s.digits * 10 + digit, s.place - 1, false⟩

/-- `x / 10 ^ places`, in steps that double arithmetic can express. -/
def shrink (x : Float) (places : Nat) : Float :=
  if places ≤ 308 then x / Float.ofScientific 1 false places
  else if x == 0.0 then x
  else shrink (x / Float.ofScientific 1 false 308) (places - 308)
termination_by places

/-- The double that the digits are read as; none if it would be infinite. -/
def double? (s : Significand) : Option Float :=
  let whole := Float.ofNat s.digits
  if s.place < 0 then some (shrink whole (-s.place).toNat)
  else if s.place ≤ 308 then
    let grown := whole * Float.ofScientific 1 false s.place.toNat
    if grown.isInf then none else some grown
  else if s.digits = 0 then some whole else none

end Significand

/-- The value of a decimal digit. -/
def digit (c : Char) : Nat := c.toNat - '0'.toNat

/-- What is wrong where something else than the rest of the text was due. -/
def faultAt : List Char → Fault
  | [] => .truncated
  | _ :: _ => .malformed

/-- The exponent of a numeral, behind its mark, and the rest of the text. -/
def exponent (cs : List Char) : Except Fault (Int × List Char) :=
  let (negative, cs) := match cs with
    | '+' :: rest => (false, rest)
    | '-' :: rest => (true, rest)
    | rest => (false, rest)
  let digits := cs.takeWhile Char.isDigit
  if digits.isEmpty then .error (faultAt cs)
  else
    let size : Int := digits.foldl (fun n c => n * 10 + digit c) 0
    .ok (if negative then -size else size, cs.drop digits.length)

/-- The number that the digits and the exponent behind them make. -/
def scaledNumber (negative : Bool) (s : Significand) (cs : List Char) :
    Except Fault (Number × List Char) := do
  let (shift, rest) ← match cs with
    | 'e' :: behind => exponent behind
    | 'E' :: behind => exponent behind
    | _ => .ok (0, cs)
  match ({ s with place := s.place + shift } : Significand).double? with
  | some x => return (.real (if negative then -x else x), rest)
  | none => throw .malformed

/-- The number that digits without point and exponent make. -/
def integer (negative : Bool) (digits : Nat) : Number :=
  if !negative then .natural digits
  else if digits = 0 ∨ 1 <<< 63 < digits then .real (-Float.ofNat digits)
  else .negative (-(digits : Int))

/-- The number behind an optional minus sign, and the rest of the text. A zero in front stands
alone. -/
def unsignedNumeral (negative : Bool) (cs : List Char) : Except Fault (Number × List Char) :=
  let whole := cs.takeWhile Char.isDigit
  let rest := cs.drop whole.length
  let read : Significand := whole.foldl (fun s c => s.pushWhole (digit c)) ⟨0, 0, false⟩
  match whole, rest with
  | [], _ => .error (faultAt cs)
  | '0' :: _ :: _, _ => .error .malformed
  | _, '.' :: behind =>
    let fraction := behind.takeWhile Char.isDigit
    let rest := behind.drop fraction.length
    if fraction.isEmpty then .error (faultAt rest)
    else
      let start : Significand := { read with full := false }
      scaledNumber negative (fraction.foldl (fun s c => s.pushFraction (digit c)) start) rest
  | _, 'e' :: _ => scaledNumber negative read rest
  | _, 'E' :: _ => scaledNumber negative read rest
  | _, _ =>
    if read.full then scaledNumber negative read rest
    else .ok (integer negative read.digits, rest)

/-- The number at the front of the text, and the rest. -/
def numeral : List Char → Except Fault (Number × List Char)
  | '-' :: rest => unsignedNumeral true rest
  | cs => unsignedNumeral false cs

end WidgetTree.Json
