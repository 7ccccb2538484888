import Mathlib
import WidgetTree.Proofs.Table
import WidgetTree.Value

namespace WidgetTree

/-- Of two tables of equal length the second has no key that the first lacks, if the first lists
keys once and has none that the second lacks. -/
theorem Table.Distinct.mem_keys_iff_of_subset {κ α : Type} {table other : Table κ α}
    (hdistinct : table.Distinct) (hlength : table.length = other.length)
    (hsubset : table.keys ⊆ other.keys) {key : κ} : key ∈ other.keys ↔ key ∈ table.keys := by
  have hperm : List.Perm table.keys other.keys := by
    refine (List.subperm_of_subset hdistinct hsubset).perm_of_length_le ?_
    simp [Table.keys, hlength]
  exact hperm.mem_iff.symm

/-- Lists are related item by item just if they are related in every place. -/
theorem forall₂_iff_getElem? {α β : Type} {related : α → β → Prop} {items : List α}
    {others : List β} :
    List.Forall₂ related items others ↔
      ∀ place : Nat, Option.Rel related items[place]? others[place]? := by
  induction items generalizing others with
  | nil =>
    cases others with
    | nil => simp
    | cons => simpa using ⟨0, nofun⟩
  | cons item rest ih =>
    cases others with
    | nil => simpa using ⟨0, nofun⟩
    | cons other behind =>
      rw [List.forall₂_cons, ih]
      constructor
      · rintro ⟨hitem, hrest⟩ (_ | place)
        · exact .some hitem
        · exact hrest place
      · intro hall
        obtain ⟨hitem⟩ | _ := hall 0
        exact ⟨hitem, fun place => hall (place + 1)⟩

section Agreement

variable {α : Type} {related : α → α → Prop} {found other third : Option α}

private theorem rel_comm
    (hcomm : ∀ a, found = some a → ∀ b, other = some b → (related a b ↔ related b a)) :
    Option.Rel related found other ↔ Option.Rel related other found := by
  constructor
  · rintro (⟨hrelated⟩ | _)
    · exact .some ((hcomm _ rfl _ rfl).mp hrelated)
    · exact .none
  · rintro (⟨hrelated⟩ | _)
    · exact .some ((hcomm _ rfl _ rfl).mpr hrelated)
    · exact .none

private theorem rel_trans
    (htrans : ∀ a, found = some a → ∀ b, other = some b → ∀ c, third = some c →
      related a b → related b c → related a c)
    (hfirst : Option.Rel related found other) (hsecond : Option.Rel related other third) :
    Option.Rel related found third := by
  cases hfirst with
  | none => exact hsecond
  | some hab =>
    obtain ⟨hbc⟩ | _ := hsecond
    exact .some (htrans _ rfl _ rfl _ rfl hab hbc)

private theorem rel_self_iff :
    Option.Rel related found found ↔ ∀ a, found = some a → related a a := by
  cases found <;> simp

/-- What is found in one place can be replaced by what is found in another, if that makes no
difference to the relation. -/
theorem rel_congr_left {replaced : α → α → Prop} (hreplaced : Option.Rel replaced found other)
    (hcongr : ∀ a, found = some a → ∀ b, replaced a b → ∀ c, third = some c →
      (related a c ↔ related b c)) :
    Option.Rel related found third ↔ Option.Rel related other third := by
  cases hreplaced with
  | none => rfl
  | some hab =>
    cases third with
    | none => exact ⟨nofun, nofun⟩
    | some c => simpa using hcongr _ rfl _ hab c rfl

end Agreement

namespace Value

/-- Every mapping in the value, at any depth, lists its names once. -/
inductive Tidy : Value → Prop
  | leaf {value : Value} (hlist : value.list? = none) (hmapping : value.mapping? = none) :
      Tidy value
  | list {items : List Value} (hitems : ∀ item ∈ items, Tidy item) : Tidy (.list items)
  | mapping {entries : Fields Value} (hnames : entries.Distinct)
      (hitems : ∀ name item, (name, item) ∈ entries → Tidy item) : Tidy (.mapping entries)

/-- Somewhere in the value stands a double that is no number. -/
inductive HasNaN : Value → Prop
  | here {number : Float} (hnan : number.isNaN = true) : HasNaN (.float number)
  | item {item : Value} {items : List Value} (hitem : item ∈ items) (hnan : HasNaN item) :
      HasNaN (.list items)
  | entry {name : String} {item : Value} {entries : Fields Value} (hentry : (name, item) ∈ entries)
      (hnan : HasNaN item) : HasNaN (.mapping entries)

/-- The values differ at most in the order of the entries of mappings, at any depth. -/
inductive Reordered : Value → Value → Prop
  | refl (value : Value) : Reordered value value
  | list {items others : List Value} (hitems : List.Forall₂ Reordered items others) :
      Reordered (.list items) (.list others)
  | mapping {entries middle others : Fields Value} (hperm : List.Perm entries middle)
      (hnames : middle.keys = others.keys)
      (hitems : List.Forall₂ Reordered (middle.map Prod.snd) (others.map Prod.snd)) :
      Reordered (.mapping entries) (.mapping others)

private theorem sameItems_iff {items others : List Value} :
    sameItems items others = true ↔ List.Forall₂ (fun a b => same a b = true) items others := by
  induction items generalizing others with
  | nil => cases others <;> simp [sameItems]
  | cons item rest ih => cases others <;> simp [sameItems, ih]

private theorem sameEntries_iff {entries others : Fields Value} :
    sameEntries entries others = true ↔
      ∀ name a, (name, a) ∈ entries → ∃ b, others.get? name = some b ∧ same a b = true := by
  induction entries with
  | nil => simp [sameEntries]
  | cons entry rest ih =>
    obtain ⟨name, a⟩ := entry
    rw [sameEntries, Bool.and_eq_true, ih]
    constructor
    · rintro ⟨hfirst, hrest⟩ known item hmem
      rcases List.mem_cons.mp hmem with hentry | hmem
      · cases hentry
        cases hget : others.get? name with
        | none => simp [hget] at hfirst
        | some b => exact ⟨b, rfl, by simpa [hget] using hfirst⟩
      · exact hrest known item hmem
    · intro hall
      obtain ⟨b, hget, hsame⟩ := hall name a List.mem_cons_self
      exact ⟨by simpa [hget] using hsame, fun known item hmem => hall known item (.tail _ hmem)⟩

private theorem same_list_iff_getElem? {items others : List Value} :
    same (.list items) (.list others) = true ↔
      ∀ place : Nat, Option.Rel (fun a b => same a b = true) items[place]? others[place]? := by
  rw [same, sameItems_iff, forall₂_iff_getElem?]

private theorem same_mapping_iff {entries others : Fields Value} :
    same (.mapping entries) (.mapping others) = true ↔
      entries.length = others.length ∧
        ∀ name a, (name, a) ∈ entries → ∃ b, others.get? name = some b ∧ same a b = true := by
  rw [same, Bool.and_eq_true, beq_iff_eq, sameEntries_iff]

/-- Where names are listed once, two mappings are equal just if they agree on every name. -/
theorem same_mapping_iff_get? {entries others : Fields Value} (hentries : entries.Distinct)
    (hothers : others.Distinct) :
    same (.mapping entries) (.mapping others) = true ↔
      ∀ name, Option.Rel (fun a b => same a b = true) (entries.get? name) (others.get? name) := by
  rw [same_mapping_iff]
  constructor
  · rintro ⟨hlength, hall⟩ name
    cases hget : entries.get? name with
    | some a =>
      obtain ⟨b, hother, hsame⟩ := hall name a (Table.mem_of_get? hget)
      rw [hother]
      exact .some hsame
    | none =>
      -- as many names on the other side leave no room for this one
      have hsubset : entries.keys ⊆ others.keys := by
        intro known hknown
        obtain ⟨a, hget⟩ := Table.mem_keys_iff.mp hknown
        obtain ⟨b, hother, -⟩ := hall known a (Table.mem_of_get? hget)
        exact Table.mem_keys_of_get? hother
      rw [Table.get?_eq_none_iff, ← hentries.mem_keys_iff_of_subset hlength hsubset,
        ← Table.get?_eq_none_iff] at hget
      rw [hget]
      exact .none
  · intro hagree
    have hkeys : List.Perm entries.keys others.keys := by
      refine (List.perm_ext_iff_of_nodup hentries hothers).mpr fun name => ?_
      have hname := hagree name
      rw [Table.mem_keys_iff, Table.mem_keys_iff]
      generalize entries.get? name = found at hname
      generalize others.get? name = other at hname
      cases hname <;> simp
    refine ⟨by simpa [Table.keys] using hkeys.length_eq, fun name a hmem => ?_⟩
    have hname := hagree name
    rw [hentries.get?_of_mem hmem] at hname
    generalize others.get? name = other at hname
    obtain ⟨hsame⟩ | _ := hname
    exact ⟨_, rfl, hsame⟩

section Laws

variable {a b c : Value}

private theorem same_comm (ha : a.Tidy) (hb : b.Tidy) : a.same b = b.same a := by
  induction ha generalizing b with
  | @leaf a hlist hmapping =>
    cases a with
    | list => cases hlist
    | mapping => cases hmapping
    | _ => cases b <;> simp [same, BEq.comm]
  | @list items hitems ih =>
    cases hb with
    | @leaf b hlist hmapping => cases b <;> first | rfl | cases hlist
    | mapping => rfl
    | @list others hothers =>
      rw [Bool.eq_iff_iff, same_list_iff_getElem?, same_list_iff_getElem?]
      refine forall_congr' fun place => rel_comm fun item hitem other hother => ?_
      rw [ih item (List.mem_of_getElem? hitem) (hothers other (List.mem_of_getElem? hother))]
  | @mapping entries hnames hentries ih =>
    cases hb with
    | @leaf b hlist hmapping => cases b <;> first | rfl | cases hmapping
    | list => rfl
    | @mapping others hothers hvalues =>
      rw [Bool.eq_iff_iff, same_mapping_iff_get? hnames hothers,
        same_mapping_iff_get? hothers hnames]
      refine forall_congr' fun name => rel_comm fun item hitem other hother => ?_
      rw [ih name item (Table.mem_of_get? hitem) (hvalues name other (Table.mem_of_get? hother))]

private theorem same_trans (ha : a.Tidy) (hb : b.Tidy) (hc : c.Tidy) (hfirst : a.same b = true)
    (hsecond : b.same c = true) : a.same c = true := by
  induction ha generalizing b c with
  | @leaf a hlist hmapping =>
    cases a with
    | list => cases hlist
    | mapping => cases hmapping
    | float x =>
      cases b with
      | float y =>
        cases c with
        | float z => exact BEq.trans hfirst hsecond
        | _ => cases hsecond
      | _ => cases hfirst
    | _ =>
      cases b <;> simp only [same, Bool.false_eq_true, beq_iff_eq] at hfirst
      all_goals first | exact hsecond | exact hfirst ▸ hsecond
  | @list items hitems ih =>
    cases hb with
    | @leaf b hlist hmapping => cases b <;> first | cases hfirst | cases hlist
    | mapping => cases hfirst
    | @list others hothers =>
      cases hc with
      | @leaf c hlist hmapping => cases c <;> first | cases hsecond | cases hlist
      | mapping => cases hsecond
      | @list thirds hthirds =>
        rw [same_list_iff_getElem?] at hfirst hsecond ⊢
        refine fun place => rel_trans ?_ (hfirst place) (hsecond place)
        intro item hitem other hother third hthird
        exact ih item (List.mem_of_getElem? hitem) (hothers other (List.mem_of_getElem? hother))
          (hthirds third (List.mem_of_getElem? hthird))
  | @mapping entries hnames hentries ih =>
    cases hb with
    | @leaf b hlist hmapping => cases b <;> first | cases hfirst | cases hmapping
    | list => cases hfirst
    | @mapping others hothers hvalues =>
      cases hc with
      | @leaf c hlist hmapping => cases c <;> first | cases hsecond | cases hmapping
      | list => cases hsecond
      | @mapping thirds hthirds hlast =>
        rw [same_mapping_iff_get? hnames hothers] at hfirst
        rw [same_mapping_iff_get? hothers hthirds] at hsecond
        rw [same_mapping_iff_get? hnames hthirds]
        refine fun name => rel_trans ?_ (hfirst name) (hsecond name)
        intro item hitem other hother third hthird
        exact ih name item (Table.mem_of_get? hitem) (hvalues name other (Table.mem_of_get? hother))
          (hlast name third (Table.mem_of_get? hthird))

private theorem same_self_iff (ha : a.Tidy) : a.same a = true ↔ ¬ a.HasNaN := by
  induction ha with
  | @leaf a hlist hmapping =>
    cases a with
    | list => cases hlist
    | mapping => cases hmapping
    | float x =>
      have hself : Value.HasNaN (.float x) ↔ x.isNaN = true :=
        ⟨fun hnan => by cases hnan; assumption, .here⟩
      rw [same, hself, Float.beq_self_iff, Float.isNaN_eq_decide_eq_nan, decide_eq_true_eq]
    | _ => exact iff_of_true (by simp [same]) nofun
  | @list items hitems ih =>
    rw [same_list_iff_getElem?]
    constructor
    · rintro hall (_ | ⟨hitem, hnan⟩ | _)
      obtain ⟨place, hplace⟩ := List.mem_iff_getElem?.mp hitem
      exact (ih _ hitem).mp (rel_self_iff.mp (hall place) _ hplace) hnan
    · intro hclean place
      refine rel_self_iff.mpr fun item hplace => ?_
      have hitem := List.mem_of_getElem? hplace
      exact (ih item hitem).mpr fun hnan => hclean (.item hitem hnan)
  | @mapping entries hnames hentries ih =>
    rw [same_mapping_iff_get? hnames hnames]
    constructor
    · rintro hall (_ | _ | ⟨hentry, hnan⟩)
      exact (ih _ _ hentry).mp (rel_self_iff.mp (hall _) _ (hnames.get?_of_mem hentry)) hnan
    · intro hclean name
      refine rel_self_iff.mpr fun item hget => ?_
      have hentry := Table.mem_of_get? hget
      exact (ih name item hentry).mpr fun hnan => hclean (.entry hentry hnan)

/-- What is looked up in a mapping and in a reordered one differs at most in the order of
entries. -/
theorem rel_get?_of_reordered {entries middle others : Fields Value} (hdistinct : entries.Distinct)
    (hperm : List.Perm entries middle) (hnames : middle.keys = others.keys)
    (hitems : List.Forall₂ Reordered (middle.map Prod.snd) (others.map Prod.snd)) (name : String) :
    Option.Rel Reordered (entries.get? name) (others.get? name) := by
  have hmatches : Table.Matches Reordered middle others := by
    have hkeys : List.Forall₂ Eq (middle.map Prod.fst) (others.map Prod.fst) :=
      List.forall₂_eq_eq_eq ▸ hnames
    rw [List.forall₂_map_left_iff, List.forall₂_map_right_iff] at hkeys hitems
    rw [List.forall₂_iff_zip] at hkeys hitems
    exact List.forall₂_iff_zip.mpr ⟨hkeys.1, fun hmem => ⟨hkeys.2 hmem, hitems.2 hmem⟩⟩
  rw [hdistinct.get?_perm hperm]
  exact hmatches.get? name

private theorem Reordered.tidy (ha : a.Tidy) (hreordered : Reordered a b) : b.Tidy := by
  induction ha generalizing b with
  | leaf hlist hmapping =>
    cases hreordered with
    | refl => exact .leaf hlist hmapping
    | list => cases hlist
    | mapping => cases hmapping
  | @list items hitems ih =>
    cases hreordered with
    | refl => exact .list hitems
    | list hothers =>
      refine .list fun other hother => ?_
      obtain ⟨place, hplace⟩ := List.mem_iff_getElem?.mp hother
      have hrelated := forall₂_iff_getElem?.mp hothers place
      rw [hplace] at hrelated
      generalize hitem : items[place]? = found at hrelated
      obtain ⟨hrelated⟩ | _ := hrelated
      exact ih _ (List.mem_of_getElem? hitem) hrelated
  | @mapping entries hnames hentries ih =>
    cases hreordered with
    | refl => exact .mapping hnames hentries
    | @mapping _ middle others hperm hkeys hitems =>
      have hothers : others.Distinct := by
        rw [Table.Distinct, ← hkeys]
        exact (hperm.map Prod.fst).nodup_iff.mp hnames
      refine .mapping hothers fun name other hother => ?_
      have hrelated := rel_get?_of_reordered hnames hperm hkeys hitems name
      rw [hothers.get?_of_mem hother] at hrelated
      generalize hget : entries.get? name = found at hrelated
      obtain ⟨hrelated⟩ | _ := hrelated
      exact ih name _ (Table.mem_of_get? hget) hrelated

private theorem same_of_reordered (ha : a.Tidy) (hc : c.Tidy) (hreordered : Reordered a b) :
    a.same c = b.same c := by
  have hb := hreordered.tidy ha
  induction ha generalizing b c with
  | leaf hlist hmapping =>
    cases hreordered with
    | refl => rfl
    | list => cases hlist
    | mapping => cases hmapping
  | @list items hitems ih =>
    cases hreordered with
    | refl => rfl
    | @list _ others hothers =>
      cases hc with
      | @leaf c hlist hmapping => cases c <;> first | rfl | cases hlist
      | mapping => rfl
      | @list thirds hthirds =>
        rw [Bool.eq_iff_iff, same_list_iff_getElem?, same_list_iff_getElem?]
        refine forall_congr' fun place => rel_congr_left (forall₂_iff_getElem?.mp hothers place) ?_
        intro item hitem other hrelated third hthird
        rw [ih item (List.mem_of_getElem? hitem) (hthirds third (List.mem_of_getElem? hthird))
          hrelated (hrelated.tidy (hitems item (List.mem_of_getElem? hitem)))]
  | @mapping entries hnames hentries ih =>
    cases hreordered with
    | refl => rfl
    | @mapping _ middle others hperm hkeys hitems =>
      cases hc with
      | @leaf c hlist hmapping => cases c <;> first | rfl | cases hmapping
      | list => rfl
      | @mapping thirds hthirds hvalues =>
        cases hb with
        | leaf hlist hmapping => cases hmapping
        | mapping hothers _ =>
          rw [Bool.eq_iff_iff, same_mapping_iff_get? hnames hthirds,
            same_mapping_iff_get? hothers hthirds]
          refine forall_congr' fun name =>
            rel_congr_left (rel_get?_of_reordered hnames hperm hkeys hitems name) ?_
          intro item hget other hrelated third hthird
          have hitem := Table.mem_of_get? hget
          rw [ih name item hitem (hvalues name third (Table.mem_of_get? hthird)) hrelated
            (hrelated.tidy (hentries name item hitem))]

end Laws

/-- Among values whose mappings list names once, equality is symmetric and transitive, a value is
equal to itself just if no double in it is other than a number, and the order of entries does not
count at any depth, on either side. A mapping equals another just if they have equally many entries
and each entry of the first has an equal value under its name in the second. -/
theorem same_laws {a b c turned other : Value} (ha : a.Tidy) (hb : b.Tidy) (hc : c.Tidy)
    (hturned : Reordered a turned) (hother : Reordered b other) :
    a.same b = b.same a ∧
    (a.same b = true → b.same c = true → a.same c = true) ∧
    (a.same a = true ↔ ¬ a.HasNaN) ∧
    a.same b = turned.same other ∧
    ∀ entries others, a = .mapping entries → b = .mapping others →
      (a.same b = true ↔ entries.length = others.length ∧
        ∀ name x, (name, x) ∈ entries → ∃ y, (name, y) ∈ others ∧ x.same y = true) := by
  refine ⟨same_comm ha hb, same_trans ha hb hc, same_self_iff ha, ?_, ?_⟩
  · have hreplaced := hturned.tidy ha
    calc a.same b = turned.same b := same_of_reordered ha hb hturned
      _ = b.same turned := same_comm hreplaced hb
      _ = other.same turned := same_of_reordered hb hreplaced hother
      _ = turned.same other := same_comm (hother.tidy hb) hreplaced
  · rintro entries others rfl rfl
    cases hb with
    | leaf _ hmapping => cases hmapping
    | mapping hothers _ =>
      rw [same_mapping_iff]
      refine and_congr_right fun _ => forall₃_congr fun name x _ => exists_congr fun y => ?_
      exact and_congr_left fun _ => ⟨Table.mem_of_get?, hothers.get?_of_mem⟩

/-- Settings of a widget. -/
def padding : Value :=
  .mapping [("side", .string "left"), ("pad", .mapping [("x", .int 1), ("y", .list [.float 2.5])])]

/-- The same settings, told in another order at both depths. -/
def paddingTurned : Value :=
  .mapping [("pad", .mapping [("y", .list [.float 2.5]), ("x", .int 1)]), ("side", .string "left")]

private theorem padding_tidy : padding.Tidy := by
  refine .mapping (by simp [Table.Distinct]) ?_
  simp only [List.mem_cons, Prod.mk.injEq, List.not_mem_nil, or_false]
  rintro _ _ (⟨rfl, rfl⟩ | ⟨rfl, rfl⟩)
  · exact .leaf rfl rfl
  · refine .mapping (by simp [Table.Distinct]) ?_
    simp only [List.mem_cons, Prod.mk.injEq, List.not_mem_nil, or_false]
    rintro _ _ (⟨rfl, rfl⟩ | ⟨rfl, rfl⟩)
    · exact .leaf rfl rfl
    · exact .list fun item hitem => List.mem_singleton.mp hitem ▸ .leaf rfl rfl

private theorem padding_reordered : Reordered padding paddingTurned := by
  have hinner : Reordered (.mapping [("x", .int 1), ("y", .list [.float 2.5])])
      (.mapping [("y", .list [.float 2.5]), ("x", .int 1)]) :=
    .mapping (.swap _ _ _) rfl (.cons (.refl _) (.cons (.refl _) .nil))
  exact .mapping (.swap _ _ _) rfl (.cons hinner (.cons (.refl _) .nil))

/-- The settings equal themselves, told in either order, since every number in them is one. -/
theorem padding_same_turned :
    (padding.Tidy ∧ Reordered padding paddingTurned) ∧
      (padding.same padding = true ↔ ¬ padding.HasNaN) ∧
      padding.same padding = true ∧ padding.same paddingTurned = true := by
  obtain ⟨-, -, hself, hturned, -⟩ := same_laws padding_tidy padding_tidy padding_tidy
    (.refl padding) padding_reordered
  have hsame : padding.same padding = true := by decide +kernel
  exact ⟨⟨padding_tidy, padding_reordered⟩, hself, hsame, hturned ▸ hsame⟩

end Value

end WidgetTree
