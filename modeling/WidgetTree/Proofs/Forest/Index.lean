import Mathlib.Data.List.Induction
import WidgetTree.Forest.Behaviour

namespace WidgetTree

/-- Decimal digits spell a number, the last one for the ones. -/
inductive Spells : List Char → Nat → Prop
  | digit {c : Char} (hdigit : c.isDigit = true) : Spells [c] (c.toNat - '0'.toNat)
  | digits {cs : List Char} {number : Nat} {c : Char} (hfront : Spells cs number)
      (hdigit : c.isDigit = true) : Spells (cs ++ [c]) (number * 10 + (c.toNat - '0'.toNat))

/-- A text reads as an unsigned number: digits, with a plus sign in front or not. -/
inductive Numeral (text : String) (number : Nat) : Prop
  | plain (hdigits : Spells text.toList number)
  | signed {cs : List Char} (hsign : text.toList = '+' :: cs) (hdigits : Spells cs number)

/-- The place among `length` things that an argument names, if it is given at all. -/
inductive Names (length : Nat) : Option Value → Nat → Prop
  | number (number : Nat) : Names length (some (.int number)) (min number length)
  | negative {number : Int} (hnegative : number < 0) : Names length (some (.int number)) 0
  | numeral {text : String} {number : Nat} (hnumeral : Numeral text number) :
      Names length (some (.string text)) (min number length)
  | atEnd : Names length (some (.string "end")) length
  | otherText {text : String} (hother : ∀ number, ¬ Numeral text number) :
      Names length (some (.string text)) length
  | otherValue {value : Value} (hint : ∀ number, value ≠ .int number)
      (htext : ∀ text, value ≠ .string text) : Names length (some value) 0
  | missing : Names length none 0

/-- The range, from `first` up to `last`, that one excluded, that the arguments of a deletion name:
that of one thing, or up to the place that the second argument names and `beyond` further. -/
inductive Spans (beyond length : Nat) : List Value → Nat → Nat → Prop
  | one {args : List Value} {first : Nat} (hargs : args.length ≤ 1)
      (hfirst : Names length args.head? first) : Spans beyond length args first (first + 1)
  | upTo {index value : Value} {rest : List Value} {first place : Nat}
      (hfirst : Names length (some index) first) (hplace : Names length (some value) place) :
      Spans beyond length (index :: value :: rest) first (place + beyond)

private theorem spells_iff {cs : List Char} {number : Nat} :
    Spells cs number ↔ cs ≠ [] ∧ (∀ c ∈ cs, c.isDigit = true) ∧
      cs.foldl (fun n c => n * 10 + (c.toNat - '0'.toNat)) 0 = number := by
  constructor
  · intro hspells
    induction hspells with
    | digit hdigit => simpa using hdigit
    | digits hfront hdigit ih =>
      obtain ⟨-, hdigits, hnumber⟩ := ih
      refine ⟨by simp, ?_, by rw [List.foldl_append, List.foldl_cons, List.foldl_nil, hnumber]⟩
      intro c hc
      rcases List.mem_append.mp hc with hc | hc
      · exact hdigits c hc
      · exact List.mem_singleton.mp hc ▸ hdigit
  · rintro ⟨hne, hdigits, rfl⟩
    induction cs using List.reverseRecOn with
    | nil => exact absurd rfl hne
    | append_singleton cs c ih =>
      have hc : c.isDigit = true := hdigits c (by simp)
      rw [List.foldl_append, List.foldl_cons, List.foldl_nil]
      cases cs with
      | nil => simpa using Spells.digit hc
      | cons first rest =>
        exact .digits (ih (by simp) fun c hc => hdigits c (List.mem_append_left _ hc)) hc

private theorem readIndex_eq_some_iff {text : String} {number : Nat} :
    readIndex text = some number ↔ Numeral text number := by
  have hread : ∀ cs : List Char,
      (if cs.isEmpty || !cs.all Char.isDigit then none
        else some (cs.foldl (fun n c => n * 10 + (c.toNat - '0'.toNat)) 0)) = some number ↔
      Spells cs number := by
    intro cs
    rw [spells_iff]
    simp [and_assoc]
  unfold readIndex
  dsimp only
  rw [hread]
  constructor
  · intro hdigits
    split at hdigits
    · next cs hsign => exact .signed hsign hdigits
    · exact .plain hdigits
  · intro hnumeral
    cases hnumeral with
    | plain hdigits =>
      split
      · next cs hsign =>
        -- a plus sign is no digit
        rw [hsign, spells_iff] at hdigits
        exact absurd (hdigits.2.1 '+' List.mem_cons_self) (by decide)
      · exact hdigits
    | signed hsign hdigits =>
      rw [hsign]
      exact hdigits

/-- An argument names just the place that it is resolved to. -/
theorem names_iff {length place : Nat} {index : Option Value} :
    Names length index place ↔ resolveIndex index length = place := by
  constructor
  · intro hnames
    cases hnames with
    | number number => simp [resolveIndex]
    | negative hnegative => simp [resolveIndex, Int.toNat_of_nonpos (Int.le_of_lt hnegative)]
    | numeral hnumeral => simp [resolveIndex, readIndex_eq_some_iff.mpr hnumeral]
    | atEnd => exact Nat.min_self length
    | @otherText text hother =>
      have hnone : readIndex text = none :=
        Option.eq_none_iff_forall_ne_some.mpr fun number hread =>
          hother number (readIndex_eq_some_iff.mp hread)
      simp [resolveIndex, hnone]
    | otherValue hint htext =>
      rw [resolveIndex]
      · exact fun number heq => hint number (Option.some.inj heq)
      · exact fun text heq => htext text (Option.some.inj heq)
    | missing => rfl
  · rintro rfl
    fun_cases resolveIndex index length with
    | case1 number =>
      rcases Int.lt_or_le number 0 with hnegative | hnatural
      · rw [Int.toNat_of_nonpos (Int.le_of_lt hnegative), Nat.zero_min]
        exact .negative hnegative
      · have hnames : Names length (some (.int number.toNat)) (min number.toNat length) :=
          .number number.toNat
        rwa [Int.toNat_of_nonneg hnatural] at hnames
    | case2 text =>
      cases hread : readIndex text with
      | some number => exact .numeral (readIndex_eq_some_iff.mp hread)
      | none =>
        rw [Option.getD_none, Nat.min_self]
        refine .otherText fun number hnumeral => ?_
        rw [readIndex_eq_some_iff.mpr hnumeral] at hread
        cases hread
    | case3 other hint htext =>
      cases index with
      | none => exact .missing
      | some value =>
        exact .otherValue (fun number heq => hint number (congrArg some heq))
          fun text heq => htext text (congrArg some heq)

/-- Every argument names a place. -/
theorem exists_names (length : Nat) (index : Option Value) : ∃ place, Names length index place :=
  ⟨_, names_iff.mpr rfl⟩

/-- An argument names a place among the things that are there, or the one behind them. -/
theorem Names.le {length place : Nat} {index : Option Value} (hnames : Names length index place) :
    place ≤ length := by
  cases hnames with
  | number | numeral => exact Nat.min_le_right _ _
  | atEnd | otherText => exact Nat.le_refl length
  | negative | otherValue | missing => exact Nat.zero_le length

/-- No argument is resolved to a place outside. -/
theorem resolveIndex_le (index : Option Value) (length : Nat) :
    resolveIndex index length ≤ length :=
  (names_iff.mpr rfl).le

/-- The arguments of every deletion name a range. -/
theorem exists_spans (beyond length : Nat) (args : List Value) :
    ∃ first last, Spans beyond length args first last := by
  match args with
  | [] => exact ⟨_, _, .one (Nat.zero_le 1) .missing⟩
  | [index] =>
    obtain ⟨first, hfirst⟩ := exists_names length (some index)
    exact ⟨_, _, .one (Nat.le_refl 1) hfirst⟩
  | index :: value :: rest =>
    obtain ⟨first, hfirst⟩ := exists_names length (some index)
    obtain ⟨place, hplace⟩ := exists_names length (some value)
    exact ⟨_, _, .upTo hfirst hplace⟩

/-- Two numbers name the range from the one to the other. -/
theorem spans_ints (beyond : Nat) {length first place : Nat} (hfirst : first ≤ length)
    (hplace : place ≤ length) :
    Spans beyond length [.int first, .int place] first (place + beyond) := by
  have hnames : ∀ number ≤ length, Names length (some (.int number)) number := fun number hnumber =>
    names_iff.mpr (Nat.min_eq_left hnumber)
  exact .upTo (hnames first hfirst) (hnames place hplace)

/-- The deletion begins where the range does and ends where it does, or at the end of all if that
comes before. -/
theorem Spans.eq_deletionEnd {beyond length first last : Nat} {args : List Value}
    (hspans : Spans beyond length args first last) :
    resolveIndex args.head? length = first ∧
      deletionEnd first args[1]? beyond length = min last length := by
  cases hspans with
  | one hargs hfirst =>
    rw [List.getElem?_eq_none hargs]
    exact ⟨names_iff.mp hfirst, rfl⟩
  | upTo hfirst hplace =>
    refine ⟨names_iff.mp hfirst, ?_⟩
    rw [List.getElem?_cons_succ, List.getElem?_cons_zero, deletionEnd, names_iff.mp hplace]

end WidgetTree
