import Mathlib

namespace WidgetTree.Text

open Float.Model Float.Model.UnpackedFloat Float.Model.Format

/-- The number that a double stands for, unless it is infinite or no number. -/
def rational? (x : Float) : Option ℚ :=
  match x.toModel.unpack with
  | .zero _ => some 0
  | .finite sign significand exponent _ => some (sign.apply significand * 2 ^ exponent)
  | _ => none

/-- The significand of the double is even. -/
def EvenSignificand (x : Float) : Prop :=
  ∃ sign significand exponent hpos,
    x.toModel.unpack = .finite sign significand exponent hpos ∧ Even significand

/-- No double is nearer to the number, and one that is just as near stands for the same number,
unless the significand of the first is even. -/
structure Nearest (x : Float) (number : ℚ) : Prop where
  exists_near : ∃ near, rational? x = some near ∧ ∀ y other, rational? y = some other →
    |near - number| < |other - number| ∨
      |near - number| = |other - number| ∧ (other = near ∨ EvenSignificand x)

/-- The significand, with what its last two bits tell of the part that was cut off, is all that is
kept of the number. -/
def Keeps (kept : ExtendedMantissa) (number : ℚ) : Prop :=
  match kept.roundBit, kept.stickyBit with
  | false, false => number = kept.mantissa
  | false, true => kept.mantissa < number ∧ number < kept.mantissa + 1 / 2
  | true, false => number = kept.mantissa + 1 / 2
  | true, true => kept.mantissa + 1 / 2 < number ∧ number < kept.mantissa + 1

/-- The rounded significand is at most a half away, and even if it is a half. -/
theorem Keeps.close {kept : ExtendedMantissa} {number : ℚ} (hkeeps : Keeps kept number) :
    |kept.roundedMantissa - number| < 1 / 2 ∨
      |kept.roundedMantissa - number| = 1 / 2 ∧ Even kept.roundedMantissa := by
  obtain ⟨significand, round, sticky⟩ := kept
  cases round <;> cases sticky <;>
    simp only [Keeps, ExtendedMantissa.roundedMantissa, ExtendedMantissa.accuracy,
      Accuracy.roundToNearestEven] at hkeeps ⊢
  · left
    simp [hkeeps]
  · left
    rw [abs_lt]
    constructor <;> linarith
  · right
    rcases Nat.mod_two_eq_zero_or_one significand with hparity | hparity
    all_goals
      refine ⟨?_, by rw [Nat.even_iff]; omega⟩
      rw [hkeeps, hparity]
      norm_num
  · left
    push_cast
    rw [abs_lt]
    constructor <;> linarith

/-- Between two integers the rounded significand stays between them. -/
theorem Keeps.bounds {kept : ExtendedMantissa} {number : ℚ} (hkeeps : Keeps kept number)
    {least greatest : ℕ} (hleast : least ≤ number) (hgreatest : number ≤ greatest) :
    least ≤ kept.roundedMantissa ∧ kept.roundedMantissa ≤ greatest := by
  have hnear : |(kept.roundedMantissa : ℚ) - number| ≤ 1 / 2 :=
    hkeeps.close.elim le_of_lt fun hhalf => hhalf.1.le
  obtain ⟨hbelow, habove⟩ := abs_le.mp hnear
  have hleft : (least : ℚ) < kept.roundedMantissa + 1 := by linarith
  have hright : (kept.roundedMantissa : ℚ) < greatest + 1 := by linarith
  exact ⟨Nat.lt_succ_iff.mp (by exact_mod_cast hleft),
    Nat.lt_succ_iff.mp (by exact_mod_cast hright)⟩

section Multiples

variable {kept : ExtendedMantissa} {number : ℚ} {place : ℕ}

end Multiples

section Integer

variable {number place : ℕ}

end Integer

end WidgetTree.Text
