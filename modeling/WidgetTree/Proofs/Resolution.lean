import WidgetTree.Proofs.Table
import WidgetTree.Resolver

namespace WidgetTree

namespace Kind

private theorem tag_ofTag (tag : String) : (ofTag tag).tag = tag := by
  unfold ofTag
  split <;> rfl

private theorem ofTag_injective : Function.Injective ofTag :=
  Function.LeftInverse.injective tag_ofTag

end Kind

/-- The tables that a resolver can begin with. -/
inductive BaseTable
  | standard
  | strict
  | ofFallback (fallback : Constructor)

namespace BaseTable

def table : BaseTable → KindTable
  | standard => .standard
  | strict => .strict
  | ofFallback fallback => .ofFallback fallback

/-- What the table has under each tag. -/
def tags : BaseTable → Fields Constructor
  | standard =>
    [ ("root", .window), ("ListBox", .collection), ("ListBoxTables", .collection),
      ("ListBoxCheckboxes", .collection), ("Button", .button), ("CheckBox", .checkbox),
      ("RegisterElement", .register) ]
  | strict | ofFallback _ => []

/-- What the table has for all other tags. -/
def fallback : BaseTable → Option Constructor
  | standard => some .generic
  | strict => none
  | ofFallback fallback => some fallback

private theorem get?_entries_table (base : BaseTable) (tag : String) :
    base.table.entries.get? (.ofTag tag) = base.tags.get? tag := by
  have hentries : base.table.entries =
      base.tags.map fun entry => (Kind.ofTag entry.1, entry.2) := by
    cases base <;> rfl
  rw [hentries, Table.get?_mapKeys Kind.ofTag_injective]

private theorem fallback_table (base : BaseTable) : base.table.fallback = base.fallback := by
  cases base <;> rfl

end BaseTable

/-- A change to a table of kinds. -/
inductive TableChange
  | register (tag : String) (constructor : Constructor)
  | setFallback (fallback : Option Constructor)

namespace TableChange

/-- The constructor that the change registers under the tag. -/
def registered? : TableChange → String → Option Constructor
  | register known constructor, tag => if known = tag then some constructor else none
  | setFallback _, _ => none

/-- The fallback that the change sets. -/
def fallback? : TableChange → Option (Option Constructor)
  | register _ _ => none
  | setFallback fallback => some fallback

/-- The constructor that was registered last under the tag. -/
def lastRegistered? (changes : List TableChange) (tag : String) : Option Constructor :=
  changes.reverse.findSome? (·.registered? tag)

/-- The fallback that was set last. -/
def lastFallback? (changes : List TableChange) : Option (Option Constructor) :=
  changes.reverse.findSome? fallback?

end TableChange

namespace KindTable

open TableChange

def change (table : KindTable) : TableChange → KindTable
  | .register tag constructor => table.register (.ofTag tag) constructor
  | .setFallback fallback => table.setFallback fallback

private theorem get?_entries_register (table : KindTable) (known tag : String)
    (constructor : Constructor) :
    (table.register (.ofTag known) constructor).entries.get? (.ofTag tag) =
      if known = tag then some constructor else table.entries.get? (.ofTag tag) := by
  simp only [register, Table.get?_insert, Kind.ofTag_injective.eq_iff]

private theorem get?_entries_change (table : KindTable) (step : TableChange) (tag : String) :
    (table.change step).entries.get? (.ofTag tag) =
      (step.registered? tag).or (table.entries.get? (.ofTag tag)) := by
  cases step with
  | register known constructor =>
    rw [change, get?_entries_register, registered?]
    split <;> rfl
  | setFallback => rfl

private theorem fallback_change (table : KindTable) (step : TableChange) :
    (table.change step).fallback = step.fallback?.getD table.fallback := by
  cases step <;> rfl

private theorem get?_entries_foldl_change (table : KindTable) (changes : List TableChange)
    (tag : String) : (changes.foldl change table).entries.get? (.ofTag tag) =
      (lastRegistered? changes tag).or (table.entries.get? (.ofTag tag)) := by
  induction changes generalizing table with
  | nil => rfl
  | cons step rest ih =>
    rw [List.foldl_cons, ih, get?_entries_change, lastRegistered?, lastRegistered?,
      List.reverse_cons, List.findSome?_append, List.findSome?_singleton, Option.or_assoc]

private theorem fallback_foldl_change (table : KindTable) (changes : List TableChange) :
    (changes.foldl change table).fallback = (lastFallback? changes).getD table.fallback := by
  induction changes generalizing table with
  | nil => rfl
  | cons step rest ih =>
    rw [List.foldl_cons, ih, fallback_change, lastFallback?, lastFallback?, List.reverse_cons,
      List.findSome?_append, List.findSome?_singleton]
    cases rest.reverse.findSome? fallback? <;> rfl

private theorem lookup_eq_elim (table : KindTable) (kind : Option Kind) :
    table.lookup kind = ((kind.bind table.entries.get?).or table.fallback).elim
      (.error (.resolution .element ((kind.map Kind.tag).getD "<none>"))) .ok := by
  rw [lookup]
  cases (kind.bind table.entries.get?).or table.fallback <;> rfl

end KindTable

namespace Resolver

open TableChange

/-- The same resolver after one more registration. -/
def register (resolver : Resolver) (tag : String) (constructor : Constructor) : Resolver :=
  { resolver with table := resolver.table.register (.ofTag tag) constructor }

private theorem resolve_tagged (resolver : Resolver) (spec : NodeSpec) (tag : String) :
    resolver.resolve { spec with kind := some tag } =
      ((resolver.table.entries.get? (.ofTag tag)).or resolver.table.fallback).elim
        (.error (.resolution .element tag)) .ok := by
  rw [resolve, KindTable.lookup_eq_elim]
  simp only [Kind.of?, Option.map_some, Option.bind_some, Option.getD_some, Kind.tag_ofTag]

private theorem resolve_untagged (resolver : Resolver) (spec : NodeSpec) :
    resolver.resolve { spec with kind := none } =
      resolver.table.fallback.elim (.error (.resolution .element "<none>")) .ok := by
  rw [resolve, KindTable.lookup_eq_elim]
  rfl

/-- A registration counts for the nodes of its tag and for no others. -/
theorem resolve_register (resolver : Resolver) (tag : String) (constructor : Constructor)
    (spec : NodeSpec) :
    (resolver.register tag constructor).resolve spec =
      if spec.kind = some tag then .ok constructor else resolver.resolve spec := by
  obtain ⟨kind, hkind⟩ : ∃ kind, spec.kind = kind := ⟨_, rfl⟩
  have hspec : spec = { spec with kind } := by rw [← hkind]
  rw [hspec]
  cases kind with
  | none => rw [resolve_untagged, resolve_untagged, if_neg nofun]; rfl
  | some known =>
    rw [resolve_tagged, resolve_tagged, register, KindTable.get?_entries_register]
    by_cases hknown : tag = known
    · simp [hknown]
    · simp [hknown, Ne.symm hknown, KindTable.register]

/-- Kinds keep their tags, so that tags tell kinds apart. After any changes to a table that a
resolver can begin with, a node resolves to the constructor registered last under its own tag, else
to what the table began with there, else to the fallback set last, and else to an error that carries
the tag; a node without a kind resolves to the fallback, or to an error that says so; and one more
registration changes nothing for the nodes of other tags. -/
theorem resolves_last_registered :
    (∀ tag, (Kind.ofTag tag).tag = tag) ∧ Function.Injective Kind.ofTag ∧
    ∀ (base : BaseTable) (changes : List TableChange) (finalize : NodeSpec → NodeSpec)
      (spec : NodeSpec),
      let resolver : Resolver := ⟨changes.foldl KindTable.change base.table, finalize⟩
      let fallback := (lastFallback? changes).getD base.fallback
      (∀ tag, resolver.resolve { spec with kind := some tag } =
        (((lastRegistered? changes tag).or (base.tags.get? tag)).or fallback).elim
          (.error (.resolution .element tag)) .ok) ∧
      resolver.resolve { spec with kind := none } =
        fallback.elim (.error (.resolution .element "<none>")) .ok ∧
      ∀ tag constructor, (resolver.register tag constructor).resolve spec =
        if spec.kind = some tag then .ok constructor else resolver.resolve spec := by
  refine ⟨Kind.tag_ofTag, Kind.ofTag_injective, fun base changes finalize spec => ?_⟩
  have hfallback : (changes.foldl KindTable.change base.table).fallback =
      (lastFallback? changes).getD base.fallback := by
    rw [KindTable.fallback_foldl_change, base.fallback_table]
  refine ⟨fun tag => ?_, ?_, fun tag constructor => resolve_register _ tag constructor spec⟩
  · rw [resolve_tagged, KindTable.get?_entries_foldl_change, base.get?_entries_table, hfallback]
  · rw [resolve_untagged, hfallback]

/-- Of two constructors registered under one tag the later one counts, and a fallback taken away is
none. -/
example :
    let table := [.register "Gauge" .button, .setFallback none, .register "Gauge" .checkbox].foldl
      KindTable.change .standard
    let resolver : Resolver := { table }
    ((resolver.resolve { id := "a", kind := some "Gauge" }).toOption.map Constructor.name,
      (resolver.resolve { id := "b", kind := some "Dial" }).toOption.map Constructor.name) =
        (some "checkbox", none) := by
  decide

end Resolver

end WidgetTree
