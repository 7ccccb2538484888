namespace WidgetTree.Text

/-- Splits a sign off the front of a text, and tells whether it is a minus sign. -/
def splitSign : List Char → Bool × List Char
  | '-' :: rest => (true, rest)
  | '+' :: rest => (false, rest)
  | cs => (false, cs)

/-- The number that decimal digits spell. -/
def decimalNumber (digits : List Char) : Nat :=
  digits.foldl (fun n c => n * 10 + (c.toNat - '0'.toNat)) 0

/-- The power of ten that a text without anything else spells. No text is the power of zero. -/
def powerOfTen? : List Char → Option Int
  | [] => some 0
  | mark :: behind =>
    let (negative, digits) := splitSign behind
    if !(mark = 'e' || mark = 'E') || digits.isEmpty || !digits.all Char.isDigit then none
    else
      let size : Int := decimalNumber digits
      some (if negative then -size else size)

/-- The double nearest to `digits * 10 ^ place`. Far beyond the range of doubles it is infinite, and
far below their least it is zero. -/
def nearestDouble (digits : Nat) (place : Int) : Float :=
  let magnitude : Int := place + (Nat.toDigits 10 digits).length
  if digits = 0 ∨ magnitude < -400 then 0.0
  else if 400 < magnitude then 1.0 / 0.0
  else if place < 0 then Float.ofScientific digits true place.natAbs
  else Float.ofScientific digits false place.natAbs

/-- The double without a sign that a text spells. -/
def unsignedDouble? (cs : List Char) : Option Float :=
  let word := String.ofList (cs.map Char.toLower)
  if word = "inf" || word = "infinity" then some (1.0 / 0.0)
  else if word = "nan" then some (0.0 / 0.0)
  else
    let whole := cs.takeWhile Char.isDigit
    let (fraction, rest) := match cs.drop whole.length with
      | '.' :: behind => (behind.takeWhile Char.isDigit, behind.dropWhile Char.isDigit)
      | rest => ([], rest)
    if whole.isEmpty && fraction.isEmpty then none
    else (powerOfTen? rest).map fun power =>
      nearestDouble (decimalNumber (whole ++ fraction)) (power - fraction.length)

/-- The double that a text spells. Infinities and the value that is no number are spelled by words
of either case. -/
def double? (text : String) : Option Float :=
  let (negative, cs) := splitSign text.toList
  (unsignedDouble? cs).map fun x => if negative then -x else x

end WidgetTree.Text
