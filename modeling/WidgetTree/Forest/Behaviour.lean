import WidgetTree.Forest.Basic
import WidgetTree.Toolkit.Error

namespace WidgetTree

/-- What a method does. Most methods concern nothing but the record of their widget; those that
concern more a forest carries out. -/
inductive Behaviour
  /-- Gives options their values. -/
  | configure
  /-- Tells the value of an option. -/
  | optionValue
  /-- Lists the names of the options. -/
  | optionNames
  /-- Gives an option of a window its value, or tells it. -/
  | windowOption
  /-- Writes an on or off value to the state variable, or the other one than it holds. -/
  | check (on : Option Bool)
  /-- Toggles the state variable and fires the command. -/
  | checkAndFire
  /-- Fires the command. -/
  | fire
  /-- Adds a page. -/
  | addTab
  /-- Lists the pages. -/
  | listTabs
  | insertText
  | deleteText
  | tellText
  | insertItems
  | deleteItems
  | tellItem
  | countItems
  /-- Nothing: the call is taken note of. -/
  | ignore
deriving DecidableEq

namespace Behaviour

/-- What a method of a widget class does. -/
def of (widgetClass method : String) : Behaviour :=
  match widgetClass, method with
  | _, "configure" => configure
  | _, "config" => configure
  | _, "cget" => optionValue
  | _, "keys" => optionNames
  | "Tk", "title" => windowOption
  | "Tk", "geometry" => windowOption
  | "Toplevel", "title" => windowOption
  | "Toplevel", "geometry" => windowOption
  | "Checkbutton", "select" => check (some true)
  | "Checkbutton", "deselect" => check (some false)
  | "Checkbutton", "toggle" => check none
  | "Checkbutton", "invoke" => checkAndFire
  | "Button", "invoke" => fire
  | "Notebook", "add" => addTab
  | "Notebook", "tabs" => listTabs
  | "Entry", "insert" => insertText
  | "Entry", "delete" => deleteText
  | "Entry", "get" => tellText
  | "Listbox", "insert" => insertItems
  | "Listbox", "delete" => deleteItems
  | "Listbox", "get" => tellItem
  | "Listbox", "size" => countItems
  | _, _ => ignore

end Behaviour

/-- The number that a text of decimal digits spells, with a plus sign in front or not. -/
def readIndex (text : String) : Option Nat :=
  let digits := match text.toList with
    | '+' :: rest => rest
    | cs => cs
  if digits.isEmpty || !digits.all Char.isDigit then none
  else some (digits.foldl (fun n c => n * 10 + (c.toNat - '0'.toNat)) 0)

/-- The place among `length` things that an argument names. A number or the digits of one name a
place, those too far off the nearest one; any other text names the end, and any other argument or
none the front. -/
def resolveIndex (index : Option Value) (length : Nat) : Nat :=
  match index with
  | some (.int number) => min number.toNat length
  | some (.string text) => min ((readIndex text).getD length) length
  | _ => 0

/-- The place behind the last thing that a deletion takes, given the first and the argument for the
last, if any; `reach` says how far behind the place so named it goes. -/
def deletionEnd (first : Nat) (last : Option Value) (reach length : Nat) : Nat :=
  match last with
  | none => min (first + 1) length
  | some value => min (resolveIndex (some value) length + reach) length

/-- A text with another put in where the character at a place starts, or at the end if there is no
character at that place. -/
def insertInto (text : String) (place : Nat) (more : String) : String :=
  let position := text.startPos.nextn place
  (text.sliceTo position).copy ++ more ++ (text.sliceFrom position).copy

/-- A text without its characters from `first` up to `last`, that one excluded. -/
def cutFrom (text : String) (first last : Nat) : String :=
  let kept := text.toList.zipIdx.filter fun entry => entry.2 < first || last ≤ entry.2
  String.ofList (kept.map Prod.fst)

/-- A list with others put in one by one, the first at a place and each behind the one before. -/
def insertEach {α : Type} (items : List α) (place : Nat) : List α → List α
  | [] => items
  | item :: more => insertEach (items.insertIdx place item) (place + 1) more

/-- A list without its items from `first` up to `last`, that one excluded. -/
def drain {α : Type} (items : List α) (first last : Nat) : List α :=
  if first < last then items.take first ++ items.drop last else items

namespace Record

/-- The answer of a method and the record afterwards, so far as the method concerns the record
alone; the page of `addTab` has been looked at before. -/
def perform (record : Record) (behaviour : Behaviour) (call : Call) :
    Except ToolkitError (Value × Record) :=
  let invalid (message : String) : Except ToolkitError (Value × Record) :=
    .error (.invalidArguments call.method message)
  let args := call.args.positional
  match behaviour with
  | .configure =>
    if args.isEmpty then
      .ok (.null, { record with options := record.options.insertAll call.args.keyword })
    else invalid "expected keyword arguments only"
  | .optionValue =>
    match args.head?.bind Value.string? with
    | none => invalid "expected an option name"
    | some name => .ok ((record.option? name).getD .null, record)
  | .optionNames => .ok (.list (record.optionNames.map .string), record)
  | .windowOption =>
    match args with
    | value :: _ => .ok (.null, { record with options := record.options.insert call.method value })
    | [] => .ok ((record.options.get? call.method).getD .null, record)
  | .addTab =>
    match args.head?.bind Value.widget? with
    | none => invalid "expected a child widget"
    | some page =>
      let text := ((call.args.keyword.get? "text").bind Value.string?).getD ""
      .ok (.null, { record with tabs := record.tabs ++ [{ page, text }] })
  | .listTabs => .ok (.list (record.tabs.map fun tab => .widget tab.page), record)
  | .insertText =>
    match args[1]?.bind Value.string? with
    | none => invalid "expected an index and a string"
    | some text =>
      let place := resolveIndex args.head? record.text.length
      .ok (.null, { record with text := insertInto record.text place text })
  | .deleteText =>
    let first := resolveIndex args.head? record.text.length
    let last := deletionEnd first args[1]? 0 record.text.length
    .ok (.null, { record with text := cutFrom record.text first last })
  | .tellText => .ok (.string record.text, record)
  | .insertItems =>
    match args with
    | [] => invalid "expected an index"
    | index :: items =>
      let place := resolveIndex (some index) record.items.length
      .ok (.null, { record with items := insertEach record.items place items })
  | .deleteItems =>
    let first := resolveIndex args.head? record.items.length
    let last := deletionEnd first args[1]? 1 record.items.length
    .ok (.null, { record with items := drain record.items first last })
  | .tellItem =>
    let place := resolveIndex args.head? record.items.length
    .ok ((record.items[place]?).getD .null, record)
  | .countItems => .ok (.int record.items.length, record)
  | .check _ | .checkAndFire | .fire | .ignore => .ok (.null, record)

end Record

end WidgetTree
