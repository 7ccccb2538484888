import Mathlib
import WidgetTree.Proofs.Forest.Reachable
import WidgetTree.Proofs.Rows.Row

namespace WidgetTree

namespace Collection

/-- An id is the right one for a new row where some ids are taken: the base, or else the base with
the least number from 2 on that is free. A label may itself look like a numbered one, so that ids
made for one label can be in the way of another. -/
inductive Assigned (taken : List String) (base : String) : String → Prop
  | plain (hfree : base ∉ taken) : Assigned taken base base
  | numbered (n : Nat) (htaken : base ∈ taken)
      (hleast : IsLeast {n | 2 ≤ n ∧ s!"{base}#{n}" ∉ taken} n) : Assigned taken base s!"{base}#{n}"

private theorem Assigned.not_mem {taken : List String} {base id : String}
    (hassigned : Assigned taken base id) : id ∉ taken := by
  cases hassigned with
  | plain hfree => exact hfree
  | numbered n htaken hleast => exact hleast.1.2

section Search

variable {taken : List String} {base : String}

private theorem numbered_injective (base : String) :
    Function.Injective fun n : Nat => s!"{base}#{n}" := by
  intro first second hsame
  have hdigits : first.repr = second.repr := by simpa using hsame
  exact Nat.repr_injective hdigits

/-- So many numbered ids in a row are taken only if that many ids are. -/
theorem le_length_of_taken (base : String) (start : Nat) {count : Nat}
    (htaken : ∀ n, start ≤ n → n < start + count → s!"{base}#{n}" ∈ taken) :
    count ≤ taken.length := by
  have hsubset : (Finset.Ico start (start + count)).image (fun n => s!"{base}#{n}") ⊆
      taken.toFinset := by
    intro id hid
    obtain ⟨n, hn, rfl⟩ := Finset.mem_image.mp hid
    rw [Finset.mem_Ico] at hn
    exact List.mem_toFinset.mpr (htaken n hn.1 hn.2)
  calc count = (Finset.Ico start (start + count)).card := by simp
    _ = ((Finset.Ico start (start + count)).image fun n => s!"{base}#{n}").card :=
      (Finset.card_image_of_injective _ (numbered_injective base)).symm
    _ ≤ taken.toFinset.card := Finset.card_le_card hsubset
    _ ≤ taken.length := taken.toFinset_card_le

/-- The search stops at the first number that is free, or when it has no choices left. -/
theorem numbered_spec (choices start : Nat) :
    ∃ n, numbered taken base choices start = s!"{base}#{n}" ∧ start ≤ n ∧
      (∀ m, start ≤ m → m < n → s!"{base}#{m}" ∈ taken) ∧
      (s!"{base}#{n}" ∈ taken → n = start + choices) := by
  induction choices generalizing start with
  | zero =>
    refine ⟨start, by rw [numbered], Nat.le_refl start, ?_, fun _ => by omega⟩
    intro m hfrom hto
    omega
  | succ choices ih =>
    by_cases hstart : s!"{base}#{start}" ∈ taken
    · obtain ⟨n, hfound, hlater, hpassed, hlast⟩ := ih (start + 1)
      refine ⟨n, ?_, by omega, ?_, fun htaken => by have := hlast htaken; omega⟩
      · rw [numbered, if_pos hstart, hfound]
      · intro m hfrom hto
        by_cases hfirst : m = start
        · exact hfirst ▸ hstart
        · exact hpassed m (by omega) hto
    · refine ⟨start, ?_, Nat.le_refl start, ?_, fun htaken => absurd htaken hstart⟩
      · rw [numbered, if_neg hstart]
      · intro m hfrom hto
        omega

/-- With as many choices as there are ids, the search ends at the least number that is free: it
cannot pass over more numbers than there are ids. -/
theorem numbered_isLeast (taken : List String) (base : String) (start : Nat) :
    ∃ n, numbered taken base taken.length start = s!"{base}#{n}" ∧
      IsLeast {n | start ≤ n ∧ s!"{base}#{n}" ∉ taken} n := by
  obtain ⟨n, hfound, hlater, hpassed, hlast⟩ := @numbered_spec taken base taken.length start
  refine ⟨n, hfound, ⟨hlater, fun htaken => ?_⟩, ?_⟩
  · obtain rfl := hlast htaken
    have hcount : taken.length + 1 ≤ taken.length := by
      apply le_length_of_taken base start
      intro m hfrom hto
      by_cases hend : m = start + taken.length
      · exact hend ▸ htaken
      · exact hpassed m hfrom (by omega)
    omega
  · rintro m ⟨hfrom, hfree⟩
    by_contra hless
    exact hfree (hpassed m hfrom (by omega))

private theorem assigned_rowId (core : Core) (rows : List Row) (label : String) :
    Assigned (rows.map Row.id) (baseId core label) (rowId core rows label) := by
  rw [rowId]
  split
  · next htaken =>
    obtain ⟨n, hfound, hleast⟩ := numbered_isLeast (rows.map Row.id) (baseId core label) 2
    rw [hfound]
    exact .numbered n htaken hleast
  · next hfree => exact .plain hfree

end Search

end Collection

/-- Whatever the strategy comes to, it gives the content of a row the id that was asked for. -/
def RowStrategy.KeepsIds (strategy : RowStrategy) : Prop :=
  ∀ spec made, (strategy.content spec).Yields made → made.node.id = spec.id

private theorem RowStrategy.keepsIds_label : RowStrategy.label.KeepsIds := by
  rintro spec _ ⟨σ, _, toolkit, rfl⟩
  rfl

private theorem RowStrategy.keepsIds_checkbox : RowStrategy.checkbox.KeepsIds := by
  rintro spec _ ⟨σ, _, toolkit, rfl⟩
  rfl

private theorem RowResolver.keepsIds_of_standard {kind : Kind} {strategy : RowStrategy}
    (hresolve : RowResolver.standard.resolve kind = .ok strategy) : strategy.KeepsIds := by
  cases kind <;> cases hresolve
  · exact RowStrategy.keepsIds_label
  · exact RowStrategy.keepsIds_label
  · exact RowStrategy.keepsIds_checkbox

section AnyToolkit

variable {σ : Type} [Toolkit σ]

namespace Core

variable {spec : NodeSpec}

private theorem construct_keepsSpec (widgetType : String) (target : Option WidgetId) :
    Act.Preserves (fun work : Work Core σ => work.subject.spec = spec)
      (construct widgetType target) :=
  .bind (fun _ hspec => hspec) fun _ => .bind (fun _ hspec => hspec) fun _ =>
    .bind (fun _ hspec => hspec) fun _ => .pure _

/-- However far a build gets, the core stays that of its node. -/
theorem build_keepsSpec (config : Config) (target : Option WidgetId) :
    Act.Preserves (fun work : Work Core σ => work.subject.spec = spec) (build config target) := by
  refine .bind (fun _ hspec => hspec) fun core => ?_
  cases core.spec.widgetType with
  | none => exact .ofExcept (.error _)
  | some widgetType =>
    exact .bind (construct_keepsSpec widgetType target) fun _ => .bind (fun _ hspec => hspec)
      fun _ => .bind (fun _ hspec => hspec) fun _ => fun _ hspec => hspec

end Core

namespace Collection

/-- A row that was built has the id that the strategy gives to its content. -/
theorem id_of_buildRow {strategy : RowStrategy} {config : Config} {parent : WidgetId}
    {spec : RowSpec} {toolkit left : σ} {row : Row} (hkeeps : strategy.KeepsIds)
    (hrow : (buildRow strategy config parent spec).perform toolkit = (.ok row, left)) :
    row.id = spec.id := by
  obtain ⟨housed, holder, made, held, -, -, hmade, hcontent⟩ := parts_of_buildRow hrow
  have hspec := Core.build_keepsSpec config (some holder) ⟨.ofSpec made.node, held⟩ rfl
  rw [hcontent] at hspec
  have hyields := Script.yields_perform (strategy.content spec) housed
  rw [hmade] at hyields
  exact (congrArg NodeSpec.id hspec).trans (hkeeps spec made hyields)

/-- All that adding a row can do to the rows: they stay as they are, or the new one joins them with
the id that was asked for. -/
theorem addRowWith_rows {core : Core} {spec : RowSpec} {work after : Work Collection σ}
    {result : Except BuildError Row}
    (hkeeps : ∀ strategy, work.subject.resolver.resolve (kind core) = .ok strategy →
      strategy.KeepsIds)
    (hadd : (addRowWith core spec).perform work = (result, after)) :
    (∃ error, result = .error error) ∧ after.subject = work.subject ∨
    ∃ row, result = .ok row ∧ row.id = spec.id ∧
      after.subject = { work.subject with rows := work.subject.rows ++ [row] } := by
  rcases addRowWith_builds hadd with
    ⟨hfailed, rfl⟩ | ⟨strategy, parent, outcome, built, hresolve, -, hrow, hend⟩
  · exact .inl ⟨hfailed, rfl⟩
  · rcases hend with ⟨error, rfl, rfl, rfl⟩ | ⟨row, rfl, rfl, rfl⟩
    · exact .inl ⟨⟨error, rfl⟩, rfl⟩
    · exact .inr ⟨row, rfl, id_of_buildRow (hkeeps strategy hresolve) hrow, rfl⟩

/-- However the releasing of the widgets goes, no row is left in the list. -/
theorem clear_rows (work : Work Collection σ) :
    (clear.perform work).2.subject = { work.subject with rows := [] } := by
  rw [clear, Act.perform_bind_ok (Act.perform_subject _),
    Act.perform_bind_ok (Act.perform_setSubject _ _), Act.perform_inToolkit]

end Collection

/-- What may happen to a collection that is used by its labels: a label is added or all rows are
cleared, with success or without, or somebody else works on the toolkit. -/
inductive LabelEvent (σ : Type)
  | added (label : String)
  | cleared
  | elsewhere (toolkit : σ)

/-- The collection and the toolkit after an event. -/
def LabelEvent.after (core : Core) (work : Work Collection σ) :
    LabelEvent σ → Work Collection σ
  | added label => ((Collection.addRow core label).perform work).2
  | cleared => (Collection.clear.perform work).2
  | elsewhere toolkit => { work with toolkit }

namespace Collection

variable {core : Core} {work after : Work Collection σ}

/-- The ids of the rows, which a new id must stay clear of. -/
def ids (collection : Collection) : List String := collection.rows.map Row.id

section Labelled

variable (hkeeps : ∀ strategy, work.subject.resolver.resolve (kind core) = .ok strategy →
  strategy.KeepsIds)
include hkeeps

/-- All that adding a label can do to the rows: they stay as they are, or the new one joins them
with the id assigned to it. -/
theorem addRow_rows {label : String} {result : Except BuildError Row}
    (hadd : (addRow core label).perform work = (result, after)) :
    (∃ error, result = .error error) ∧ after.subject = work.subject ∨
    ∃ row, result = .ok row ∧ Assigned work.subject.ids (baseId core label) row.id ∧
      after.subject = { work.subject with rows := work.subject.rows ++ [row] } := by
  rw [addRow, Act.perform_bind_ok (Act.perform_subject _)] at hadd
  rcases addRowWith_rows hkeeps hadd with hrefused | ⟨row, hok, hid, hjoined⟩
  · exact .inl hrefused
  · refine .inr ⟨row, hok, ?_, hjoined⟩
    rw [hid]
    exact assigned_rowId core work.subject.rows label

/-- An event leaves the ids of the rows apart, and the strategies as they are. -/
theorem nodup_ids_after (hnodup : work.subject.ids.Nodup) (event : LabelEvent σ) :
    (event.after core work).subject.ids.Nodup ∧
      (event.after core work).subject.resolver = work.subject.resolver := by
  cases event with
  | added label =>
    rw [LabelEvent.after]
    rcases hadd : (addRow core label).perform work with ⟨result, left⟩
    dsimp only
    rcases addRow_rows hkeeps hadd with ⟨-, hsame⟩ | ⟨row, -, hassigned, hjoined⟩
    · rw [hsame]
      exact ⟨hnodup, rfl⟩
    · refine ⟨?_, by rw [hjoined]⟩
      have hids : left.subject.ids = work.subject.ids ++ [row.id] := by
        simp [ids, hjoined]
      rw [hids, List.nodup_append]
      refine ⟨hnodup, List.nodup_singleton _, ?_⟩
      rintro id hold _ hnew rfl
      exact hassigned.not_mem (List.mem_singleton.mp hnew ▸ hold)
  | cleared =>
    rw [LabelEvent.after, clear_rows]
    exact ⟨List.nodup_nil, rfl⟩
  | elsewhere toolkit => exact ⟨hnodup, rfl⟩

private theorem nodup_ids_foldl (hnodup : work.subject.ids.Nodup) (events : List (LabelEvent σ)) :
    (events.foldl (LabelEvent.after core) work).subject.ids.Nodup := by
  induction events generalizing work with
  | nil => exact hnodup
  | cons event rest ih =>
    obtain ⟨hnext, hresolver⟩ := nodup_ids_after hkeeps hnodup event
    refine ih ?_ hnext
    intro strategy hresolve
    exact hkeeps strategy (hresolver ▸ hresolve)

end Labelled

/-- The search for a row's id ends, whatever rows there are: at the base made of the collection's
id and the label if no row has it, and else at the base with the least number from 2 on that no row
has. A row that is added under its label has the id found so, which is no other row's. Rows that are
only added under their labels, or cleared, have ids that are pairwise distinct, whatever else
happens in the toolkit. -/
theorem labelled_rows_apart (core : Core) (work : Work Collection σ)
    (hkeeps : ∀ strategy, work.subject.resolver.resolve (kind core) = .ok strategy →
      strategy.KeepsIds) :
    (∀ label, Assigned work.subject.ids ("generic:" ++ core.id ++ "." ++ label)
      (rowId core work.subject.rows label)) ∧
    (∀ label row after, (addRow core label).perform work = (.ok row, after) →
      Assigned work.subject.ids ("generic:" ++ core.id ++ "." ++ label) row.id ∧
      row.id ∉ work.subject.ids ∧ after.subject.rows = work.subject.rows ++ [row]) ∧
    (work.subject.ids.Nodup → ∀ events : List (LabelEvent σ),
      (events.foldl (LabelEvent.after core) work).subject.ids.Nodup) := by
  refine ⟨assigned_rowId core work.subject.rows, ?_, nodup_ids_foldl hkeeps⟩
  intro label row after hadd
  rcases addRow_rows hkeeps hadd with ⟨⟨error, herror⟩, -⟩ | ⟨made, hmade, hassigned, hjoined⟩
  · cases herror
  · obtain rfl := Except.ok.inj hmade
    exact ⟨hassigned, hassigned.not_mem, by rw [hjoined]⟩

/-- A label is added twice to a list whose one row was given the id that the second of them would
get first, so it gets the number 3. -/
theorem label_twice_beside_numbered :
    let forest : Forest := Forest.empty.serveAll
      [.construct "Tk" none [], .construct "Frame" (some ⟨1⟩) []]
    let core : Core :=
      { spec := { id := "list", kind := some "ListBox", widgetType := some "Frame" }
        widget := some ⟨2⟩, target := some ⟨1⟩, state := .built }
    let events : List (LabelEvent Forest) := [.added "a#2", .added "a", .added "a"]
    let left := events.foldl (LabelEvent.after core) ⟨{}, forest⟩
    left.subject.ids = ["generic:list.a#2", "generic:list.a", "generic:list.a#3"] ∧
      left.subject.ids.Nodup := by
  intro forest core events left
  have hkeeps : ∀ strategy, ({} : Collection).resolver.resolve (kind core) = .ok strategy →
      strategy.KeepsIds := fun _ hresolve => RowResolver.keepsIds_of_standard hresolve
  obtain ⟨-, -, hapart⟩ := labelled_rows_apart core ⟨{}, forest⟩ hkeeps
  refine ⟨?_, hapart List.nodup_nil events⟩
  subst left events core forest
  cbv

end Collection

end AnyToolkit

end WidgetTree
