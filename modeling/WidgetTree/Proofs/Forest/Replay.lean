import WidgetTree.Proofs.Forest.Index
import WidgetTree.Proofs.Forest.Splice
import WidgetTree.Proofs.Forest.Touch

namespace WidgetTree

/-- What calls can make of a widget, its pages apart: the options that were configured, the text of
an entry and the items of a list box. -/
structure Contents where
  options : Fields Value := []
  text : String := ""
  items : List Value := []

namespace Contents

/-- Gives options their values, in order. -/
def configure (contents : Contents) (given : Fields Value) : Contents :=
  { contents with options := contents.options.insertAll given }

/-- Puts a text in where an argument says. -/
def insertText (contents : Contents) (index : Value) (text : String) : Contents :=
  let cs := contents.text.toList
  let place := resolveIndex (some index) cs.length
  { contents with text := String.ofList (spliceIn cs place text.toList) }

/-- Takes characters out: from the place that the first argument names up to the one that the second
names, or one character if there is no second. -/
def deleteText (contents : Contents) (args : List Value) : Contents :=
  let cs := contents.text.toList
  let first := resolveIndex args.head? cs.length
  let last := deletionEnd first args[1]? 0 cs.length
  { contents with text := String.ofList (spliceOut cs first last) }

/-- Puts items in where an argument says. -/
def insertItems (contents : Contents) (index : Value) (items : List Value) : Contents :=
  let place := resolveIndex (some index) contents.items.length
  { contents with items := spliceIn contents.items place items }

/-- Takes items out, as `deleteText` does characters, but with the item at the last place. -/
def deleteItems (contents : Contents) (args : List Value) : Contents :=
  let first := resolveIndex args.head? contents.items.length
  let last := deletionEnd first args[1]? 1 contents.items.length
  { contents with items := spliceOut contents.items first last }

/-- What a call makes of the contents of a widget of some class. A call that does not stand here,
or not with arguments of this form, makes nothing of them. -/
def after (widgetClass : String) (contents : Contents) (call : Call) : Contents :=
  match widgetClass, call.method, call.args.positional with
  | _, "configure", [] => contents.configure call.args.keyword
  | _, "config", [] => contents.configure call.args.keyword
  | "Tk", "title", value :: _ => contents.configure [("title", value)]
  | "Tk", "geometry", value :: _ => contents.configure [("geometry", value)]
  | "Toplevel", "title", value :: _ => contents.configure [("title", value)]
  | "Toplevel", "geometry", value :: _ => contents.configure [("geometry", value)]
  | "Entry", "insert", index :: .string text :: _ => contents.insertText index text
  | "Entry", "delete", args => contents.deleteText args
  | "Listbox", "insert", index :: items => contents.insertItems index items
  | "Listbox", "delete", args => contents.deleteItems args
  | _, _, _ => contents

/-- What a log of calls makes of a widget of some class that has nothing in it. -/
def replay (widgetClass : String) (log : List Call) : Contents := log.foldl (after widgetClass) {}

/-- The last call of a log is replayed on what those before it have left. -/
theorem replay_append_singleton (widgetClass : String) (log : List Call) (call : Call) :
    replay widgetClass (log ++ [call]) = (replay widgetClass log).after widgetClass call := by
  simp [replay]

/-- What is no text is not put in. -/
example : (replay "Entry" [⟨"insert", ⟨[.int 0, .string "ac"], []⟩⟩,
    ⟨"insert", ⟨[.int 1, .string "b"], []⟩⟩, ⟨"insert", ⟨[.int 1, .null], []⟩⟩,
    ⟨"delete", ⟨[.int 0], []⟩⟩]).text = "bc" := by
  decide

end Contents

namespace Record

/-- What is in the widget. -/
def contents (record : Record) : Contents := ⟨record.options, record.text, record.items⟩

/-- What is in the widget after a method, by the method's outcome. -/
def contentsLeft (record : Record) : Except ToolkitError (Value × Record) → Contents
  | .ok (_, later) => later.contents
  | .error _ => record.contents

/-- A method leaves what replaying its call makes of what was there. -/
theorem contentsLeft_perform (record : Record) (widgetClass : String) (call : Call) :
    record.contentsLeft (record.perform (Behaviour.of widgetClass call.method) call) =
      record.contents.after widgetClass call := by
  obtain ⟨method, args, keyword⟩ := call
  dsimp only
  fun_cases Behaviour.of widgetClass method with
  | case1 | case2 =>
    -- options are configured by keyword only
    cases args <;> simp [perform, contentsLeft, contents, Contents.after, Contents.configure]
  | case5 | case6 | case7 | case8 =>
    cases args <;> simp [perform, contentsLeft, contents, Contents.after, Contents.configure]
  | case16 =>
    -- the text to insert stands behind the index
    rcases args with _ | ⟨index, _ | ⟨second, rest⟩⟩
    · rfl
    · simp [perform, contentsLeft, Contents.after]
    · cases second <;>
        simp [perform, contentsLeft, contents, Contents.after, Contents.insertText, Value.string?,
          insertInto_eq_spliceIn, String.length_toList]
  | case19 =>
    cases args <;>
      simp [perform, contentsLeft, contents, Contents.after, Contents.insertItems,
        insertEach_eq_spliceIn, resolveIndex_le]
  | case3 | case14 =>
    simp only [perform]
    split <;> simp [contentsLeft, contents, Contents.after]
  | case23 =>
    -- no other class has the method
    simp only [perform, contentsLeft, Contents.after]
    split <;> simp_all
  | _ =>
    simp [perform, contentsLeft, contents, Contents.after, Contents.deleteText,
      Contents.deleteItems, cutFrom_eq_spliceOut, drain_eq_spliceOut, String.length_toList]

end Record

/-- The class that a name finds has that name. -/
theorem WidgetClass.name_of_ofName? {name : String} {cls : WidgetClass}
    (hclass : ofName? name = some cls) : cls.name = name := by
  simpa using List.find?_some hclass

namespace Forest

variable {forest : Forest} {widget : WidgetId} {record : Record}

private theorem carryOut_contents (hrecord : forest.record? widget = some record)
    (behaviour : Behaviour) (call : Call) :
    ∃ later, (forest.carryOut widget record behaviour call).2.record? widget = some later ∧
      later.calls = record.calls ∧
      later.contents = record.contentsLeft (record.perform behaviour call) := by
  have hlocally : ∀ behaviour, ∃ later,
      (forest.performLocally widget record behaviour call).2.record? widget = some later ∧
        later.calls = record.calls ∧
        later.contents = record.contentsLeft (record.perform behaviour call) := by
    intro behaviour
    unfold performLocally
    cases hperform : record.perform behaviour call with
    | error error => exact ⟨record, hrecord, rfl, rfl⟩
    | ok result =>
      refine ⟨result.2, ?_, Record.calls_of_perform hperform, rfl⟩
      rw [record?_modify, if_pos rfl, hrecord, Option.map_some]
  cases behaviour with
  | check on => exact ⟨record, (record?_check forest record on widget).trans hrecord, rfl, rfl⟩
  | checkAndFire =>
    refine ⟨record, ?_, rfl, rfl⟩
    have hcheck := record?_check forest record none widget
    rw [carryOut]
    split
    · next heq => exact (heq ▸ hcheck).trans hrecord
    · next heq => exact (record?_fireBound _ record widget).trans ((heq ▸ hcheck).trans hrecord)
  | fire => exact ⟨record, (record?_fireBound forest record widget).trans hrecord, rfl, rfl⟩
  | addTab =>
    rw [carryOut]
    split
    · refine ⟨record, hrecord, rfl, ?_⟩
      simp only [Record.perform]
      split <;> rfl
    · exact hlocally .addTab
  | _ => exact hlocally _

/-- The class of a live widget is the one that its type names in the catalogue. -/
theorem classOf_eq_ok_iff {cls : WidgetClass} :
    forest.classOf widget = .ok cls ↔
      ∃ record, forest.record? widget = some record ∧
        WidgetClass.ofName? record.widgetType = some cls := by
  unfold classOf
  cases forest.record? widget with
  | none => simp
  | some record => cases hclass : WidgetClass.ofName? record.widgetType <;> simp [hclass]

/-- A live widget of a known class accepts the methods of that class. -/
theorem accepts_of_class (hrecord : forest.record? widget = some record) {cls : WidgetClass}
    (hclass : WidgetClass.ofName? record.widgetType = some cls) (method : String) :
    forest.accepts widget method = cls.hasMethod method := by
  rw [accepts, classOf_eq_ok_iff.mpr ⟨record, hrecord, hclass⟩]

/-- An accepted call is carried out as the widget's class has it. -/
theorem invoke_of_accepts (hrecord : forest.record? widget = some record) {call : Call}
    (haccepts : forest.accepts widget call.method = true) :
    forest.invoke widget call =
      ((forest.modify widget (noteCall call)).log (.invoked widget call.method)).carryOut widget
        (noteCall call record) (Behaviour.of record.widgetType call.method) call := by
  unfold accepts at haccepts
  unfold invoke
  cases hclass : forest.classOf widget with
  | error error => simp [hclass] at haccepts
  | ok cls =>
    obtain ⟨known, hknown, hname⟩ := classOf_eq_ok_iff.mp hclass
    obtain rfl : record = known := Option.some.inj (hrecord.symm.trans hknown)
    simp only [hclass] at haccepts
    simp only [hrecord, haccepts, if_true, WidgetClass.name_of_ofName? hname]

/-- An accepted call is logged in the record of its widget and does to the widget what replaying it
does. Nothing else of the record changes that calls have no part in. -/
theorem invoke_replays (hrecord : forest.record? widget = some record) {call : Call}
    (haccepts : forest.accepts widget call.method = true) :
    ∃ later, (forest.invoke widget call).2.record? widget = some later ∧
      later.uncalled = record.uncalled ∧ later.calls = record.calls ++ [call] ∧
      later.contents = record.contents.after record.widgetType call := by
  have hnoted : ((forest.modify widget (noteCall call)).log
      (.invoked widget call.method)).record? widget = some (noteCall call record) := by
    simp [record?_modify, hrecord]
  obtain ⟨later, hlater, hcalls, hcontents⟩ :=
    carryOut_contents hnoted (Behaviour.of record.widgetType call.method) call
  have hkept := (invoke_spec widget call forest).2.1
  rw [← invoke_of_accepts hrecord haccepts] at hlater
  rw [Record.contentsLeft_perform] at hcontents
  rw [hlater, hrecord] at hkept
  exact ⟨later, hlater, Option.some.inj hkept, hcalls, hcontents⟩

end Forest

end WidgetTree
