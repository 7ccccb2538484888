import Mathlib.Data.List.Basic
import WidgetTree.Forest.Behaviour

namespace WidgetTree

variable {α : Type}

/-- A list with others put in at a place. -/
def spliceIn (items : List α) (place : Nat) (more : List α) : List α :=
  items.take place ++ more ++ items.drop place

/-- A list without its items from `first` up to `last`, that one excluded. -/
def spliceOut (items : List α) (first last : Nat) : List α :=
  items.take first ++ items.drop (max first last)

/-- What is put in makes a list longer by as much. -/
theorem length_spliceIn (items : List α) (place : Nat) (more : List α) :
    (spliceIn items place more).length = items.length + more.length := by
  simp only [spliceIn, List.length_append, List.length_take, List.length_drop]
  omega

/-- Taking out what was put in undoes it. -/
theorem spliceOut_spliceIn {items : List α} {place : Nat} (hplace : place ≤ items.length)
    (more : List α) :
    spliceOut (spliceIn items place more) place (place + more.length) = items := by
  have htake : (items.take place).length = place := List.length_take_of_le hplace
  have hlast : max place (place + more.length) = (items.take place ++ more).length := by
    rw [List.length_append, htake]
    omega
  rw [spliceOut, hlast, spliceIn, List.drop_left, List.append_assoc, List.take_left' htake,
    List.take_append_drop]

/-- A range that begins where it ends or behind that takes nothing out. -/
theorem spliceOut_of_le {items : List α} {first last : Nat} (hrange : last ≤ first) :
    spliceOut items first last = items := by
  rw [spliceOut, Nat.max_eq_left hrange, List.take_append_drop]

/-- Nothing is taken out from behind the end. -/
theorem spliceOut_min (items : List α) (first last : Nat) :
    spliceOut items first (min last items.length) = spliceOut items first last := by
  by_cases hlast : last ≤ items.length
  · rw [Nat.min_eq_left hlast]
  · have hnone : ∀ place, items.length ≤ place → items.drop place = [] := fun _ =>
      List.drop_eq_nil_of_le
    rw [spliceOut, spliceOut, hnone (max first (min last items.length)) (by omega),
      hnone (max first last) (by omega)]

/-- Texts are cut where a character starts, so that the characters before the place and those
behind it stay whole. -/
theorem insertInto_eq_spliceIn (text : String) (place : Nat) (more : String) :
    insertInto text place more = String.ofList (spliceIn text.toList place more.toList) := by
  have hsplits := String.splits_nextn_startPos text place
  rw [insertInto, hsplits.copy_sliceTo_eq, hsplits.copy_sliceFrom_eq, spliceIn,
    String.ofList_append, String.ofList_append, String.ofList_toList]

/-- Places are counted in characters, however many bytes each of them takes. -/
example : insertInto "äb" 1 "öo" = "äöob" := by decide

private theorem spliceOut_zero (items : List α) (last : Nat) :
    spliceOut items 0 last = items.drop last := by
  rw [spliceOut, List.take_zero, List.nil_append, Nat.zero_max]

private theorem spliceOut_cons_succ (item : α) (rest : List α) (first last : Nat) :
    spliceOut (item :: rest) (first + 1) last = item :: spliceOut rest first (last - 1) := by
  have hlast : max (first + 1) last = max first (last - 1) + 1 := by omega
  rw [spliceOut, hlast, List.take_succ_cons, List.drop_succ_cons, List.cons_append, spliceOut]

/-- Keeping what is numbered before `first`, or `last` and behind, numbering from `place` on. -/
theorem sift_eq_spliceOut (items : List α) (first last place : Nat) :
    ((items.zipIdx place).filter fun entry => entry.2 < first || last ≤ entry.2).map Prod.fst =
      spliceOut items (first - place) (last - place) := by
  induction items generalizing place with
  | nil => simp [spliceOut]
  | cons item rest ih =>
    have hlast : last - (place + 1) = last - place - 1 := by omega
    rw [List.zipIdx_cons, List.filter_cons]
    by_cases hbefore : place < first
    · have hfirst : first - place = first - (place + 1) + 1 := by omega
      rw [if_pos (by simp [hbefore]), List.map_cons, ih, hfirst, spliceOut_cons_succ, hlast]
    · have hfirst : first - place = 0 ∧ first - (place + 1) = 0 := by omega
      by_cases hbehind : last ≤ place
      · have hnone : last - place = 0 := by omega
        rw [if_pos (by simp [hbehind]), List.map_cons, ih, hlast, hfirst.1, hfirst.2, hnone,
          spliceOut_zero, spliceOut_zero, Nat.zero_sub, List.drop_zero, List.drop_zero]
      · have hmore : last - place = last - (place + 1) + 1 := by omega
        rw [if_neg (by simp [hbefore, hbehind]), ih, hfirst.1, hfirst.2, hmore, spliceOut_zero,
          spliceOut_zero, List.drop_succ_cons]

/-- Cutting a text between bytes is a splice of its characters. -/
theorem cutFrom_eq_spliceOut (text : String) (first last : Nat) :
    cutFrom text first last = String.ofList (spliceOut text.toList first last) := by
  have hsift := sift_eq_spliceOut text.toList first last 0
  rw [cutFrom]
  exact congrArg String.ofList hsift

/-- Items are put in one at a time, each at a place of the list as it is by then, its end
included. -/
inductive InsertsWithin : List α → Nat → List α → List α → Prop
  | done (items : List α) (place : Nat) : InsertsWithin items place [] items
  | next {items more result : List α} {place : Nat} {item : α} (hplace : place ≤ items.length)
      (hrest : InsertsWithin (items.insertIdx place item) (place + 1) more result) :
      InsertsWithin items place (item :: more) result

/-- Items that are put in one by one stay within the list. -/
theorem insertEach_within {items : List α} {place : Nat} (hplace : place ≤ items.length)
    (more : List α) : InsertsWithin items place more (insertEach items place more) := by
  induction more generalizing items place with
  | nil => exact .done items place
  | cons item more ih =>
    refine .next hplace (ih ?_)
    rw [List.length_insertIdx, if_pos hplace]
    omega

private theorem insertIdx_length_append (before after : List α) (item : α) :
    (before ++ after).insertIdx before.length item = before ++ item :: after := by
  induction before with
  | nil => rfl
  | cons first before ih =>
    rw [List.cons_append, List.length_cons, List.insertIdx_succ_cons, ih, List.cons_append]

private theorem insertEach_length_append (before after more : List α) :
    insertEach (before ++ after) before.length more = before ++ more ++ after := by
  induction more generalizing before with
  | nil => rw [insertEach, List.append_nil]
  | cons item more ih =>
    have hnext := ih (before ++ [item])
    rw [List.length_append, List.length_singleton, List.append_assoc, List.singleton_append]
      at hnext
    rw [insertEach, insertIdx_length_append, hnext, List.append_assoc before [item],
      List.singleton_append]

/-- Putting items in one by one is one splice. -/
theorem insertEach_eq_spliceIn {items : List α} {place : Nat} (hplace : place ≤ items.length)
    (more : List α) : insertEach items place more = spliceIn items place more := by
  have hinsert := insertEach_length_append (items.take place) (items.drop place) more
  rwa [List.take_append_drop, List.length_take_of_le hplace] at hinsert

/-- What is cut off between two places is there, or there is nothing between them. -/
inductive CutsWithin (items : List α) (first last : Nat) : List α → Prop
  | nothing (hrange : last ≤ first) : CutsWithin items first last items
  | range (hrange : first < last) (hlast : last ≤ items.length) :
      CutsWithin items first last (items.take first ++ items.drop last)

private theorem drain_within {items : List α} {last : Nat} (hlast : last ≤ items.length)
    (first : Nat) : CutsWithin items first last (drain items first last) := by
  rw [drain]
  split
  · next hrange => exact .range hrange hlast
  · next hrange => exact .nothing (Nat.le_of_not_lt hrange)

/-- Draining a range is a splice. -/
theorem drain_eq_spliceOut (items : List α) (first last : Nat) :
    drain items first last = spliceOut items first last := by
  rw [drain]
  split
  · next hrange => rw [spliceOut, Nat.max_eq_right (Nat.le_of_lt hrange)]
  · next hrange => rw [spliceOut_of_le (Nat.le_of_not_lt hrange)]

/-- A splice that takes something out takes out what is there. -/
theorem spliceOut_within (items : List α) (first last : Nat) :
    CutsWithin items first (min last items.length) (spliceOut items first last) := by
  have hdrain := drain_within (Nat.min_le_right last items.length) first
  rwa [drain_eq_spliceOut, spliceOut_min] at hdrain

end WidgetTree
