import WidgetTree.Proofs.Forest.Turn

namespace WidgetTree.Forest

/-- The methods `insert` and `delete` of a live widget edit its text, character by character. They
cut where their arguments say, and nowhere outside of the text. -/
structure EditsText (forest : Forest) (widget : WidgetId) (record : Record) : Prop where
  inserts : ∀ index more rest keyword, ∃ place,
    Names record.text.length (some index) place ∧ place ≤ record.text.length ∧
      forest.Leaves widget ⟨"insert", ⟨index :: .string more :: rest, keyword⟩⟩ (.ok .null)
        { record with
          text := String.ofList (spliceIn record.text.toList place more.toList) }
  refuses : ∀ args keyword, (∀ index more rest, args ≠ index :: .string more :: rest) →
    forest.Leaves widget ⟨"insert", ⟨args, keyword⟩⟩
      (.error (.invalidArguments "insert" "expected an index and a string")) record
  deletes : ∀ args keyword, ∃ first last,
    Spans 0 record.text.length args first last ∧
      CutsWithin record.text.toList first (min last record.text.length)
        (spliceOut record.text.toList first last) ∧
      forest.Leaves widget ⟨"delete", ⟨args, keyword⟩⟩ (.ok .null)
        { record with text := String.ofList (spliceOut record.text.toList first last) }
  /-- A deletion of the range that was put in. -/
  undoes : ∀ index more rest keyword args others place,
    Names record.text.length (some index) place →
      Spans 0 (record.text.length + more.length) args place (place + more.length) →
        let insertion : Call := ⟨"insert", ⟨index :: .string more :: rest, keyword⟩⟩
        (forest.invoke widget insertion).2.Leaves widget ⟨"delete", ⟨args, others⟩⟩ (.ok .null)
          (noteCall insertion record)
  /-- That range has a name. -/
  spans : ∀ place (more : String), place ≤ record.text.length →
    Spans 0 (record.text.length + more.length) [.int place, .int ↑(place + more.length)] place
      (place + more.length)

/-- The methods `insert`, `delete` and `size` of a live widget edit and count its items. The last
item of a range is named itself, not the place behind it. -/
structure EditsItems (forest : Forest) (widget : WidgetId) (record : Record) : Prop where
  inserts : ∀ index more keyword, ∃ place,
    Names record.items.length (some index) place ∧
      InsertsWithin record.items place more (spliceIn record.items place more) ∧
      forest.Leaves widget ⟨"insert", ⟨index :: more, keyword⟩⟩ (.ok .null)
        { record with items := spliceIn record.items place more }
  refuses : ∀ keyword, forest.Leaves widget ⟨"insert", ⟨[], keyword⟩⟩
    (.error (.invalidArguments "insert" "expected an index")) record
  deletes : ∀ args keyword, ∃ first last,
    Spans 1 record.items.length args first last ∧
      CutsWithin record.items first (min last record.items.length)
        (spliceOut record.items first last) ∧
      forest.Leaves widget ⟨"delete", ⟨args, keyword⟩⟩ (.ok .null)
        { record with items := spliceOut record.items first last }
  undoes : ∀ index more keyword args others place,
    Names record.items.length (some index) place →
      Spans 1 (record.items.length + more.length) args place (place + more.length) →
        let insertion : Call := ⟨"insert", ⟨index :: more, keyword⟩⟩
        (forest.invoke widget insertion).2.Leaves widget ⟨"delete", ⟨args, others⟩⟩ (.ok .null)
          (noteCall insertion record)
  /-- The range that was put in has a name, unless nothing was put in. -/
  spans : ∀ place (more : List Value), place ≤ record.items.length → more ≠ [] →
    Spans 1 (record.items.length + more.length) [.int place, .int ↑(place + more.length - 1)] place
      (place + more.length)
  counts : ∀ args, (forest.invoke widget ⟨"size", args⟩).1 = .ok (.int record.items.length)
  grows : ∀ index more keyword args,
    ((forest.invoke widget ⟨"insert", ⟨index :: more, keyword⟩⟩).2.invoke widget
      ⟨"size", args⟩).1 = .ok (.int ↑(record.items.length + more.length))

section Entry

variable {forest : Forest} {widget : WidgetId} {record : Record}

variable (hrecord : forest.record? widget = some record) (htype : record.widgetType = "Entry")

include hrecord htype

private theorem leaves_insertText (index : Value) (more : String) (rest : List Value)
    (keyword : Fields Value) {place : Nat}
    (hplace : Names record.text.length (some index) place) :
    forest.Leaves widget ⟨"insert", ⟨index :: .string more :: rest, keyword⟩⟩ (.ok .null)
      { record with text := String.ofList (spliceIn record.text.toList place more.toList) } := by
  refine leaves_of_perform hrecord htype rfl rfl rfl (fun _ => rfl) ?_
  rw [← names_iff.mp hplace, ← insertInto_eq_spliceIn]
  rfl

private theorem leaves_refusedText {args : List Value}
    (hargs : ∀ index more rest, args ≠ index :: .string more :: rest) (keyword : Fields Value) :
    forest.Leaves widget ⟨"insert", ⟨args, keyword⟩⟩
      (.error (.invalidArguments "insert" "expected an index and a string")) record := by
  refine leaves_of_perform_error hrecord htype rfl rfl rfl (fun _ => rfl) ?_
  match args with
  | [] => rfl
  | [_] => rfl
  | index :: value :: rest =>
    cases value with
    | string more => exact absurd rfl (hargs index more rest)
    | _ => rfl

private theorem leaves_deleteText (args : List Value) (keyword : Fields Value) {first last : Nat}
    (hspans : Spans 0 record.text.length args first last) :
    forest.Leaves widget ⟨"delete", ⟨args, keyword⟩⟩ (.ok .null)
      { record with text := String.ofList (spliceOut record.text.toList first last) } := by
  obtain ⟨hfirst, hlast⟩ := hspans.eq_deletionEnd
  refine leaves_of_perform hrecord htype rfl rfl rfl (fun _ => rfl) ?_
  rw [← spliceOut_min, String.length_toList, ← hlast, ← hfirst, ← cutFrom_eq_spliceOut]
  rfl

/-- Taking out of a text what was put in last undoes it. -/
theorem leaves_undoneText {index : Value} {more : String} {place : Nat}
    (hplace : Names record.text.length (some index) place) {args : List Value}
    (hspans : Spans 0 (record.text.length + more.length) args place (place + more.length))
    (rest : List Value) (keyword others : Fields Value) :
    let insertion : Call := ⟨"insert", ⟨index :: .string more :: rest, keyword⟩⟩
    (forest.invoke widget insertion).2.Leaves widget ⟨"delete", ⟨args, others⟩⟩ (.ok .null)
      (noteCall insertion record) := by
  intro insertion
  have hlater := (leaves_insertText hrecord htype index more rest keyword hplace).2
  have hlength : (String.ofList (spliceIn record.text.toList place more.toList)).length =
      record.text.length + more.length := by
    rw [String.length_ofList, length_spliceIn, String.length_toList, String.length_toList]
  have hwithin : place ≤ record.text.toList.length := by
    rw [String.length_toList]
    exact hplace.le
  have hback : String.ofList (spliceOut
      (String.ofList (spliceIn record.text.toList place more.toList)).toList place
        (place + more.length)) = record.text := by
    rw [String.toList_ofList, ← String.length_toList (s := more), spliceOut_spliceIn hwithin,
      String.ofList_toList]
  have hundone := leaves_deleteText hlater htype args others (hlength ▸ hspans)
  simp only [noteCall, hback] at hundone
  exact hundone

private theorem editsText : forest.EditsText widget record where
  inserts index more rest keyword := by
    obtain ⟨place, hplace⟩ := exists_names record.text.length (some index)
    exact ⟨place, hplace, hplace.le,
      leaves_insertText hrecord htype index more rest keyword hplace⟩
  refuses args keyword hargs := leaves_refusedText hrecord htype hargs keyword
  deletes args keyword := by
    obtain ⟨first, last, hspans⟩ := exists_spans 0 record.text.length args
    refine ⟨first, last, hspans, ?_, leaves_deleteText hrecord htype args keyword hspans⟩
    rw [← String.length_toList]
    exact spliceOut_within record.text.toList first last
  undoes index more rest keyword args others place hplace hspans :=
    leaves_undoneText hrecord htype hplace hspans rest keyword others
  spans place more hplace := spans_ints 0 (by omega) (by omega)

end Entry

section Listbox

variable {forest : Forest} {widget : WidgetId} {record : Record}

variable (hrecord : forest.record? widget = some record) (htype : record.widgetType = "Listbox")

include hrecord htype

private theorem leaves_insertItems (index : Value) (more : List Value) (keyword : Fields Value)
    {place : Nat} (hplace : Names record.items.length (some index) place) :
    forest.Leaves widget ⟨"insert", ⟨index :: more, keyword⟩⟩ (.ok .null)
      { record with items := spliceIn record.items place more } := by
  refine leaves_of_perform hrecord htype rfl rfl rfl (fun _ => rfl) ?_
  rw [← names_iff.mp hplace, ← insertEach_eq_spliceIn (resolveIndex_le _ _)]
  rfl

private theorem leaves_refusedItems (keyword : Fields Value) :
    forest.Leaves widget ⟨"insert", ⟨[], keyword⟩⟩
      (.error (.invalidArguments "insert" "expected an index")) record :=
  leaves_of_perform_error hrecord htype rfl rfl rfl (fun _ => rfl) rfl

private theorem leaves_deleteItems (args : List Value) (keyword : Fields Value) {first last : Nat}
    (hspans : Spans 1 record.items.length args first last) :
    forest.Leaves widget ⟨"delete", ⟨args, keyword⟩⟩ (.ok .null)
      { record with items := spliceOut record.items first last } := by
  obtain ⟨hfirst, hlast⟩ := hspans.eq_deletionEnd
  refine leaves_of_perform hrecord htype rfl rfl rfl (fun _ => rfl) ?_
  rw [← spliceOut_min, ← hlast, ← hfirst, ← drain_eq_spliceOut]
  rfl

/-- Taking out of the items what was put in last undoes it. -/
theorem leaves_undoneItems {index : Value} {more : List Value} {place : Nat}
    (hplace : Names record.items.length (some index) place) {args : List Value}
    (hspans : Spans 1 (record.items.length + more.length) args place (place + more.length))
    (keyword others : Fields Value) :
    let insertion : Call := ⟨"insert", ⟨index :: more, keyword⟩⟩
    (forest.invoke widget insertion).2.Leaves widget ⟨"delete", ⟨args, others⟩⟩ (.ok .null)
      (noteCall insertion record) := by
  intro insertion
  have hlater := (leaves_insertItems hrecord htype index more keyword hplace).2
  have hlength := length_spliceIn record.items place more
  have hundone := leaves_deleteItems hlater htype args others (hlength ▸ hspans)
  simp only [noteCall, spliceOut_spliceIn hplace.le] at hundone
  exact hundone

private theorem leaves_countItems (args : Arguments) :
    forest.Leaves widget ⟨"size", args⟩ (.ok (.int record.items.length)) record :=
  leaves_of_perform hrecord htype rfl rfl rfl (fun _ => rfl) rfl

private theorem editsItems : forest.EditsItems widget record where
  inserts index more keyword := by
    obtain ⟨place, hplace⟩ := exists_names record.items.length (some index)
    refine ⟨place, hplace, ?_, leaves_insertItems hrecord htype index more keyword hplace⟩
    rw [← insertEach_eq_spliceIn hplace.le]
    exact insertEach_within hplace.le more
  refuses keyword := leaves_refusedItems hrecord htype keyword
  deletes args keyword := by
    obtain ⟨first, last, hspans⟩ := exists_spans 1 record.items.length args
    exact ⟨first, last, hspans, spliceOut_within record.items first last,
      leaves_deleteItems hrecord htype args keyword hspans⟩
  undoes index more keyword args others place hplace hspans :=
    leaves_undoneItems hrecord htype hplace hspans keyword others
  spans place more hplace hmore := by
    have hpos := List.length_pos_iff.mpr hmore
    have hspans := @spans_ints 1 (record.items.length + more.length) place
      (place + more.length - 1) (by omega) (by omega)
    rwa [Nat.sub_add_cancel (by omega)] at hspans
  counts args := (leaves_countItems hrecord htype args).1
  grows index more keyword args := by
    obtain ⟨place, hplace⟩ := exists_names record.items.length (some index)
    have hlater := (leaves_insertItems hrecord htype index more keyword hplace).2
    have hcounts := (leaves_countItems hlater htype args).1
    rwa [noteCall, length_spliceIn] at hcounts

end Listbox

/-- The methods of a live entry edit its text and those of a live list box its items. -/
theorem edits_are_splices {forest : Forest} {widget : WidgetId} {record : Record}
    (hrecord : forest.record? widget = some record) :
    (record.widgetType = "Entry" → forest.EditsText widget record) ∧
      (record.widgetType = "Listbox" → forest.EditsItems widget record) :=
  ⟨editsText hrecord, editsItems hrecord⟩

/-- An entry and a list box that were edited before. -/
theorem entry_and_listbox_edited :
    let forest := empty.serveAll
      [.construct "Entry" none [], .construct "Listbox" none [],
        .invoke ⟨1⟩ ⟨"insert", ⟨[.int 0, .string "äb"], []⟩⟩,
        .invoke ⟨2⟩ ⟨"insert", ⟨[.string "end", .int 1, .null], []⟩⟩]
    (∃ record, forest.record? ⟨1⟩ = some record ∧ record.text = "äb" ∧
      forest.EditsText ⟨1⟩ record) ∧
    ∃ record, forest.record? ⟨2⟩ = some record ∧ record.items = [.int 1, .null] ∧
      forest.EditsItems ⟨2⟩ record :=
  ⟨⟨_, rfl, rfl, (edits_are_splices rfl).1 rfl⟩, ⟨_, rfl, rfl, (edits_are_splices rfl).2 rfl⟩⟩

end WidgetTree.Forest
