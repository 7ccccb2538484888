namespace WidgetTree

/-- Keys with values, in the order in which the keys first appeared. A key keeps the position at
which it was first given and the value that it was last given. -/
abbrev Table (κ α : Type) := List (κ × α)

/-- A table keyed by names. -/
abbrev Fields (α : Type) := Table String α

namespace Table

variable {κ α : Type}

/-- The keys, in order. -/
def keys (table : Table κ α) : List κ := table.map Prod.fst

variable [DecidableEq κ]

/-- The value under a key. -/
def get? : Table κ α → κ → Option α
  | [], _ => none
  | (known, value) :: rest, key => if known = key then some value else get? rest key

/-- Whether the key has a value. -/
def has (table : Table κ α) (key : κ) : Bool := (table.get? key).isSome

/-- Gives a key a value: in place if the key is known, at the end otherwise. -/
def insert : Table κ α → κ → α → Table κ α
  | [], key, value => [(key, value)]
  | (known, old) :: rest, key, value =>
    if known = key then (known, value) :: rest else (known, old) :: insert rest key value

/-- Gives every key of `more` its value, in order. -/
def insertAll (table more : Table κ α) : Table κ α :=
  more.foldl (fun acc entry => acc.insert entry.1 entry.2) table

/-- The table of a list of pairs. -/
def ofPairs (pairs : List (κ × α)) : Table κ α := insertAll [] pairs

/-- Takes a key and its value out. The order of the others stays. -/
def erase (table : Table κ α) (key : κ) : Table κ α :=
  table.filter fun entry => entry.1 ≠ key

/-- No key is listed twice. -/
def Distinct (table : Table κ α) : Prop := table.keys.Nodup

/-- An inserted value is found under its key, and others are found as before. -/
theorem get?_insert (table : Table κ α) (key other : κ) (value : α) :
    (table.insert key value).get? other = if key = other then some value else table.get? other := by
  induction table with
  | nil => rfl
  | cons entry rest ih =>
    obtain ⟨known, old⟩ := entry
    by_cases hkey : known = key
    · subst hkey
      by_cases h : known = other <;> simp [insert, get?, h]
    · by_cases h : known = other
      · subst h
        have hne : ¬ key = known := fun heq => hkey heq.symm
        simp [insert, get?, hkey, hne]
      · simpa [insert, get?, hkey, h] using ih

/-- A key that is inserted keeps its place if it is listed, and else is the last. -/
theorem keys_insert (table : Table κ α) (key : κ) (value : α) :
    (table.insert key value).keys =
      if key ∈ table.keys then table.keys else table.keys ++ [key] := by
  induction table with
  | nil => rfl
  | cons entry rest ih =>
    obtain ⟨known, old⟩ := entry
    by_cases hkey : known = key
    · simp [insert, keys, hkey]
    · have hne : ¬ key = known := fun heq => hkey heq.symm
      by_cases hmem : key ∈ keys rest
      · simp only [hmem, if_true] at ih
        simp only [keys] at ih hmem
        simp [insert, keys, hkey, hne, hmem, ih]
      · simp only [hmem, if_false] at ih
        simp only [keys] at ih hmem
        simp [insert, keys, hkey, hne, hmem, ih]

/-- Giving a value keeps every key listed once. -/
theorem Distinct.insert {table : Table κ α} (h : table.Distinct) (key : κ) (value : α) :
    (table.insert key value).Distinct := by
  unfold Distinct at h ⊢
  rw [keys_insert]
  split
  · exact h
  · rename_i hmem
    rw [List.nodup_append]
    refine ⟨h, by simp, ?_⟩
    intro a ha b hb heq
    rw [List.mem_singleton] at hb
    exact hmem (hb ▸ heq ▸ ha)

private theorem Distinct.insertAll {table : Table κ α} (h : table.Distinct) (more : Table κ α) :
    (table.insertAll more).Distinct := by
  induction more generalizing table with
  | nil => exact h
  | cons entry rest ih => exact ih (h.insert entry.1 entry.2)

/-- However often a list of pairs repeats a key, its table lists it once. -/
theorem distinct_ofPairs (pairs : List (κ × α)) : (ofPairs pairs).Distinct :=
  have empty : Distinct ([] : Table κ α) := List.nodup_nil
  empty.insertAll pairs

end Table

end WidgetTree
