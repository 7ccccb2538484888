import Mathlib.Data.List.Forall2
import Mathlib.Data.List.Nodup
import WidgetTree.Table

namespace WidgetTree.Table

variable {κ α β : Type}

/-- Two tables list the same keys in the same order, and have related values under them. -/
def Matches (related : α → β → Prop) : Table κ α → Table κ β → Prop :=
  List.Forall₂ fun entry other => entry.1 = other.1 ∧ related entry.2 other.2

@[simp] theorem keys_nil : keys ([] : Table κ α) = [] := rfl

@[simp] theorem keys_cons (entry : κ × α) (rest : Table κ α) :
    keys (entry :: rest) = entry.1 :: keys rest := rfl

/-- The keys of two tables together are those of the one and then those of the other. -/
@[simp] theorem keys_append (first second : Table κ α) :
    keys (first ++ second) = keys first ++ keys second := List.map_append

/-- Changing the values of a table leaves its keys. -/
theorem keys_mapValues (table : Table κ α) (change : κ → α → β) :
    keys (table.map fun entry => (entry.1, change entry.1 entry.2)) = table.keys := by
  simp [keys, Function.comp_def]

/-- Tables that match list the same keys. -/
theorem Matches.keys_eq {related : α → β → Prop} {table : Table κ α} {other : Table κ β}
    (hmatches : Matches related table other) : table.keys = other.keys := by
  induction hmatches with
  | nil => rfl
  | cons hentry _ ih => rw [keys_cons, keys_cons, hentry.1, ih]

/-- Tables whose values look alike look alike. -/
theorem Matches.map_eq {γ : Type} {related : α → β → Prop} {table : Table κ α} {other : Table κ β}
    (hmatches : Matches related table other) (look : α → γ) (glance : β → γ)
    (halike : ∀ {value paired}, related value paired → look value = glance paired) :
    (table.map fun entry => (entry.1, look entry.2)) =
      other.map fun entry => (entry.1, glance entry.2) := by
  induction hmatches with
  | nil => rfl
  | cons hentry _ ih => rw [List.map_cons, List.map_cons, hentry.1, halike hentry.2, ih]

variable [DecidableEq κ]

/-- What is not found is not listed. -/
theorem get?_eq_none_iff {table : Table κ α} {key : κ} :
    table.get? key = none ↔ key ∉ table.keys := by
  induction table with
  | nil => simp [get?]
  | cons entry rest ih =>
    obtain ⟨known, value⟩ := entry
    by_cases hkey : known = key
    · simp [get?, hkey]
    · simp [get?, hkey, ih, Ne.symm hkey]

/-- A key is listed if something is found under it. -/
theorem mem_keys_iff {table : Table κ α} {key : κ} :
    key ∈ table.keys ↔ ∃ value, table.get? key = some value := by
  rw [← Option.ne_none_iff_exists', ne_eq, get?_eq_none_iff, Classical.not_not]

/-- What is looked up under a key is the value of the first entry with that key. -/
theorem get?_eq_head?_filter (table : Table κ α) (key : κ) :
    table.get? key = (table.filter (·.1 = key)).head?.map Prod.snd := by
  induction table with
  | nil => rfl
  | cons entry rest ih =>
    obtain ⟨known, value⟩ := entry
    by_cases hkey : known = key
    · simp [get?, hkey]
    · simp [get?, hkey, ih]

/-- A key under which something is found is listed. -/
theorem mem_keys_of_get? {table : Table κ α} {key : κ} {value : α}
    (hget : table.get? key = some value) : key ∈ table.keys :=
  mem_keys_iff.mpr ⟨value, hget⟩

/-- What is found under a key is an entry. -/
theorem mem_of_get? {table : Table κ α} {key : κ} {value : α}
    (hget : table.get? key = some value) : (key, value) ∈ table := by
  induction table with
  | nil => cases hget
  | cons entry rest ih =>
    obtain ⟨known, stored⟩ := entry
    by_cases hkey : known = key
    · simp only [get?, hkey, if_true, Option.some.injEq] at hget
      simp [hkey, hget]
    · simp only [get?, hkey, if_false] at hget
      exact List.mem_cons_of_mem _ (ih hget)

/-- Where keys are listed once, every entry is what is looked up under its key. -/
theorem Distinct.get?_of_mem {table : Table κ α} (hdistinct : table.Distinct) {key : κ} {value : α}
    (hmem : (key, value) ∈ table) : table.get? key = some value := by
  induction table with
  | nil => cases hmem
  | cons entry rest ih =>
    obtain ⟨known, stored⟩ := entry
    obtain ⟨hfresh, hrest⟩ := List.nodup_cons.mp hdistinct
    rcases List.mem_cons.mp hmem with heq | hmem
    · cases heq
      simp [get?]
    · have hne : known ≠ key := by
        rintro rfl
        exact hfresh (List.mem_map.mpr ⟨_, hmem, rfl⟩)
      simpa [get?, hne] using ih hrest hmem

/-- Where keys are listed once, the order of the entries does not matter to what is looked up. -/
theorem Distinct.get?_perm {table other : Table κ α} (hdistinct : table.Distinct)
    (hperm : List.Perm table other) (key : κ) : table.get? key = other.get? key := by
  have hother : other.Distinct := (hperm.map Prod.fst).nodup_iff.mp hdistinct
  refine Option.ext fun value => ?_
  constructor
  · exact fun hget => hother.get?_of_mem (hperm.mem_iff.mp (mem_of_get? hget))
  · exact fun hget => hdistinct.get?_of_mem (hperm.mem_iff.mpr (mem_of_get? hget))

/-- A table that is put behind another is asked about the keys that the first does not list. -/
theorem get?_append (first second : Table κ α) (key : κ) :
    get? (first ++ second) key = (first.get? key).or (second.get? key) := by
  induction first with
  | nil => simp [get?]
  | cons entry rest ih =>
    obtain ⟨known, value⟩ := entry
    by_cases hkey : known = key
    · simp [get?, hkey]
    · simpa [get?, hkey] using ih

/-- What is found in a table with changed values is the changed value. -/
theorem get?_mapValues (table : Table κ α) (change : κ → α → β) (key : κ) :
    get? (table.map fun entry => (entry.1, change entry.1 entry.2)) key =
      (table.get? key).map (change key) := by
  induction table with
  | nil => rfl
  | cons entry rest ih =>
    obtain ⟨known, value⟩ := entry
    by_cases hkey : known = key
    · subst hkey
      simp [get?]
    · simpa [get?, hkey] using ih

/-- Renaming keys one to one leaves what is found. -/
theorem get?_mapKeys {ι : Type} [DecidableEq ι] {rename : κ → ι}
    (hinjective : Function.Injective rename) (table : Table κ α) (key : κ) :
    get? (table.map fun entry => (rename entry.1, entry.2)) (rename key) = table.get? key := by
  induction table with
  | nil => rfl
  | cons entry rest ih =>
    obtain ⟨known, value⟩ := entry
    simp only [List.map_cons, get?, hinjective.eq_iff, ih]

private theorem erase_append (first second : Table κ α) (key : κ) :
    erase (first ++ second) key = first.erase key ++ second.erase key := List.filter_append ..

/-- Erasing a key leaves the others. -/
theorem keys_erase (table : Table κ α) (key : κ) :
    (table.erase key).keys = table.keys.filter (· ≠ key) := by
  simp [erase, keys, List.filter_map, Function.comp_def]

/-- Under an erased key nothing is found, and under the others what was found before. -/
theorem get?_erase (table : Table κ α) (key other : κ) :
    (table.erase key).get? other = if key = other then none else table.get? other := by
  induction table with
  | nil => simp [erase, get?]
  | cons entry rest ih =>
    obtain ⟨known, value⟩ := entry
    simp only [erase] at ih
    by_cases hknown : known = key
    · by_cases hkey : key = other
      · simpa [erase, hknown, hkey] using ih
      · simpa [erase, hknown, hkey, get?] using ih
    · by_cases hother : known = other
      · subst hother
        simp [erase, hknown, Ne.symm hknown, get?]
      · simpa [erase, hknown, hother, get?] using ih

/-- A table without a key lists its keys once if the table does. -/
theorem Distinct.erase {table : Table κ α} (hdistinct : table.Distinct) (key : κ) :
    (table.erase key).Distinct := by
  unfold Distinct at hdistinct ⊢
  rw [keys_erase]
  exact hdistinct.filter _

/-- Erasing a key that is not listed changes nothing. -/
theorem erase_of_not_mem {table : Table κ α} {key : κ} (hfresh : key ∉ table.keys) :
    table.erase key = table := by
  rw [erase, List.filter_eq_self]
  intro entry hmem
  simp only [ne_eq, decide_eq_true_eq]
  intro heq
  exact hfresh (heq ▸ List.mem_map.mpr ⟨_, hmem, rfl⟩)

/-- Taking out a key that is listed once closes the gap that it leaves. -/
theorem erase_middle {before behind : Table κ α} {entry : κ × α}
    (hdistinct : Distinct (before ++ entry :: behind)) :
    erase (before ++ entry :: behind) entry.1 = before ++ behind := by
  rw [Distinct, keys_append, keys_cons, List.nodup_middle, List.nodup_cons, List.mem_append,
    not_or] at hdistinct
  obtain ⟨⟨hbefore, hbehind⟩, -⟩ := hdistinct
  have hself : erase (entry :: behind) entry.1 = behind.erase entry.1 := by simp [erase]
  rw [erase_append, hself, erase_of_not_mem hbefore, erase_of_not_mem hbehind]

/-- Inserting a key adds it to the keys. -/
theorem mem_keys_insert_iff {table : Table κ α} {key other : κ} {value : α} :
    other ∈ (table.insert key value).keys ↔ other ∈ table.keys ∨ other = key := by
  rw [keys_insert]
  split
  · next hmem =>
    constructor
    · exact .inl
    · rintro (hother | rfl)
      · exact hother
      · exact hmem
  · rw [List.mem_append, List.mem_singleton]

private theorem insert_of_not_mem {table : Table κ α} {key : κ} (hfresh : key ∉ table.keys)
    (value : α) : table.insert key value = table ++ [(key, value)] := by
  induction table with
  | nil => rfl
  | cons entry rest ih =>
    obtain ⟨known, stored⟩ := entry
    simp only [keys_cons, List.mem_cons, not_or] at hfresh
    simp [insert, Ne.symm hfresh.1, ih hfresh.2]

@[simp] theorem insertAll_nil (table : Table κ α) : table.insertAll [] = table := rfl

/-- Entries are inserted one by one. -/
@[simp] theorem insertAll_cons (table : Table κ α) (entry : κ × α) (more : Table κ α) :
    table.insertAll (entry :: more) = (table.insert entry.1 entry.2).insertAll more := rfl

/-- Entries are inserted one list after the other. -/
theorem insertAll_append (table first second : Table κ α) :
    table.insertAll (first ++ second) = (table.insertAll first).insertAll second :=
  List.foldl_append

/-- New keys, each given once, join at the end in their order. -/
theorem insertAll_of_disjoint {table more : Table κ α} (hdistinct : more.Distinct)
    (hfresh : ∀ key ∈ more.keys, key ∉ table.keys) : table.insertAll more = table ++ more := by
  induction more generalizing table with
  | nil => simp
  | cons entry rest ih =>
    obtain ⟨hnew, hrest⟩ := List.nodup_cons.mp hdistinct
    have hentry : entry.1 ∉ table.keys := hfresh _ (by simp)
    rw [insertAll_cons, insert_of_not_mem hentry, ih hrest]
    · simp
    · intro key hkey
      simp only [keys_append, keys_cons, keys_nil, List.mem_append, List.mem_singleton, not_or]
      refine ⟨hfresh key (by simp [hkey]), ?_⟩
      rintro rfl
      exact hnew hkey

/-- Pairs whose keys are given once are a table already. -/
theorem ofPairs_eq_self {pairs : Table κ α} (hdistinct : pairs.Distinct) :
    ofPairs pairs = pairs := by
  rw [ofPairs, insertAll_of_disjoint hdistinct (by simp)]
  rfl

/-- A key has the value that it was given last; one that was not given keeps its value. -/
theorem get?_insertAll (table more : Table κ α) (key : κ) :
    (table.insertAll more).get? key = (get? more.reverse key).or (table.get? key) := by
  induction more generalizing table with
  | nil => rfl
  | cons entry rest ih =>
    obtain ⟨given, value⟩ := entry
    rw [insertAll_cons, ih, List.reverse_cons, get?_append, get?_insert]
    by_cases hkey : given = key
    · cases get? rest.reverse key <;> simp [get?, hkey]
    · cases get? rest.reverse key <;> simp [get?, hkey]

/-- The keys of a table that is given more values: its own, and then the others in the order in
which they were first given. -/
theorem keys_insertAll (table more : Table κ α) :
    (table.insertAll more).keys =
      table.keys ++ (more.keys.filter (· ∉ table.keys)).eraseDups := by
  induction more generalizing table with
  | nil => simp
  | cons entry rest ih =>
    obtain ⟨given, value⟩ := entry
    rw [insertAll_cons, ih, keys_insert]
    by_cases hmem : given ∈ table.keys
    · simp [hmem]
    · simp only [hmem, if_false, keys_cons, not_false_eq_true, decide_true, List.filter_cons_of_pos,
        List.eraseDups_cons, List.append_assoc, List.cons_append, List.nil_append,
        List.filter_filter, List.mem_append, List.mem_singleton, not_or]
      congr 3
      apply List.filter_congr
      intro key _
      by_cases hkey : key = given <;> simp [hkey, and_comm]

/-- The table of a list of pairs lists the distinct keys in order of first appearance. -/
theorem keys_ofPairs (pairs : Table κ α) : (ofPairs pairs).keys = pairs.keys.eraseDups := by
  simp [ofPairs, keys_insertAll]

/-- Under a key of pairs is found what is given for it last. -/
theorem get?_ofPairs (pairs : Table κ α) (key : κ) :
    (ofPairs pairs).get? key = get? pairs.reverse key := by
  simp [ofPairs, get?_insertAll, get?]

/-- Where keys are listed once, the keys and what is looked up under them are all of a table. -/
theorem Distinct.eq_filterMap_keys {table : Table κ α} (hdistinct : table.Distinct) :
    table = table.keys.filterMap fun key => (table.get? key).map (key, ·) := by
  have hentry : ∀ entry ∈ table, (table.get? entry.1).map (entry.1, ·) = some entry := by
    intro entry hmem
    rw [hdistinct.get?_of_mem hmem, Option.map_some]
  rw [keys, List.filterMap_map]
  exact ((List.filterMap_congr hentry).trans List.filterMap_some).symm

/-- A table of pairs, read off the pairs: each key once, with the last of its values. -/
theorem ofPairs_eq_filterMap (pairs : Table κ α) :
    ofPairs pairs = pairs.keys.eraseDups.filterMap fun key =>
      (pairs.filter (·.1 = key)).getLast?.map fun entry => (key, entry.2) := by
  refine ((distinct_ofPairs pairs).eq_filterMap_keys).trans ?_
  rw [keys_ofPairs]
  refine List.filterMap_congr fun key _ => ?_
  rw [get?_ofPairs, get?_eq_head?_filter, List.filter_reverse, List.head?_reverse, Option.map_map]
  rfl

namespace Matches

variable {related : α → β → Prop} {table more : Table κ α} {other others : Table κ β}

/-- In tables that match, related values are found under a key, or none in either. -/
theorem get? (hmatches : Matches related table other) (key : κ) :
    Option.Rel related (table.get? key) (other.get? key) := by
  induction hmatches with
  | nil => exact .none
  | @cons entry paired _ _ hentry _ ih =>
    rw [Table.get?, Table.get?, hentry.1]
    split
    · exact .some hentry.2
    · exact ih

/-- Tables still match when related values are inserted under one key. -/
theorem insert (hmatches : Matches related table other) (key : κ) {value : α} {paired : β}
    (hrelated : related value paired) :
    Matches related (table.insert key value) (other.insert key paired) := by
  induction hmatches with
  | nil => exact .cons ⟨rfl, hrelated⟩ .nil
  | @cons entry twin _ _ hentry hrest ih =>
    rw [Table.insert, Table.insert, hentry.1]
    split
    · exact .cons ⟨rfl, hrelated⟩ hrest
    · exact .cons ⟨rfl, hentry.2⟩ ih

/-- Tables still match when matching entries are inserted. -/
theorem insertAll (hmatches : Matches related table other) (hmore : Matches related more others) :
    Matches related (table.insertAll more) (other.insertAll others) := by
  induction hmore generalizing table other with
  | nil => exact hmatches
  | @cons entry paired _ _ hentry _ ih =>
    rw [insertAll_cons, insertAll_cons, hentry.1]
    exact ih (hmatches.insert paired.1 hentry.2)

end Matches

/-- It does not matter whether values are changed before pairs are made a table or after. -/
theorem ofPairs_mapValues (pairs : Table κ α) (change : α → β) :
    ofPairs (pairs.map fun entry => (entry.1, change entry.2)) =
      (ofPairs pairs).map fun entry => (entry.1, change entry.2) := by
  have hchanged : Matches (fun value changed => change value = changed) pairs
      (pairs.map fun entry => (entry.1, change entry.2)) :=
    List.forall₂_map_right_iff.mpr (List.forall₂_same.mpr fun _ _ => ⟨rfl, rfl⟩)
  have hkept := (Matches.insertAll .nil hchanged).map_eq change id id
  simpa [ofPairs] using hkept.symm

end WidgetTree.Table
