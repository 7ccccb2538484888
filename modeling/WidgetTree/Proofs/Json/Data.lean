import WidgetTree.Json.Data
import WidgetTree.Proofs.Json.Classed
import WidgetTree.Proofs.Text.Nearest

namespace WidgetTree

open Json Text

namespace Json.Data

private theorem numberValue_eq (number : Number) : numberValue number = number.value := by
  cases number with
  | natural number =>
    by_cases hfits : number ≤ greatestInt <;>
      simp [numberValue, Number.int?, Number.double?, Number.value, hfits]
  | negative number => rfl
  | real number => rfl

private theorem entries_eq_map (members : Fields Data) :
    entries members = members.map fun member => (member.1, member.2.value) := by
  induction members with
  | nil => rfl
  | cons member rest ih => rw [entries, ih, List.map_cons]

/-- It does not matter whether members that are named alike are dropped before their values are
made or after. -/
theorem value_object_ofPairs (members : Fields Data) :
    (object (Table.ofPairs members)).value = .mapping (Table.ofPairs (entries members)) := by
  have hdistinct : Table.Distinct (entries (Table.ofPairs members)) := by
    unfold Table.Distinct
    rw [entries_eq_map, Table.keys_mapValues _ fun _ => value]
    exact Table.distinct_ofPairs members
  rw [value, Table.ofPairs_eq_self hdistinct, entries_eq_map, entries_eq_map,
    Table.ofPairs_mapValues]

end Json.Data

namespace Json.Document

mutual

private theorem value?_eq_map_data? :
    ∀ document : Document, document.value? = document.data?.map Data.value
  | null | bool _ | string _ | broken _ => rfl
  | number n => congrArg Except.ok (Data.numberValue_eq n).symm
  | list items fault => by
    rw [value?, data?, values?_eq_map_dataItems? items]
    cases dataItems? items <;> cases fault <;> rfl
  | object members fault => by
    rw [value?, data?, entries?_eq_map_dataMembers? members]
    cases dataMembers? members with
    | error => rfl
    | ok members =>
      cases fault with
      | some => rfl
      | none => exact congrArg Except.ok (Data.value_object_ofPairs members).symm

private theorem values?_eq_map_dataItems? :
    ∀ items : List Document, values? items = (dataItems? items).map Data.values
  | [] => rfl
  | item :: rest => by
    rw [values?, dataItems?, value?_eq_map_data? item, values?_eq_map_dataItems? rest]
    cases item.data? with
    | error => rfl
    | ok => cases dataItems? rest <;> rfl

private theorem entries?_eq_map_dataMembers? :
    ∀ members : List (Except Fault String × Document),
      entries? members = (dataMembers? members).map Data.entries
  | [] => rfl
  | (name, item) :: rest => by
    rw [entries?, dataMembers?, value?_eq_map_data? item, entries?_eq_map_dataMembers? rest]
    cases name with
    | error => rfl
    | ok =>
      cases item.data? with
      | error => rfl
      | ok => cases dataMembers? rest <;> rfl

end

end Json.Document

namespace Json

namespace Number

/-- The integer that is written. -/
def integer? : Number → Option ℤ
  | natural number => some number
  | negative number => some number
  | real _ => none

/-- An integer that fits in 64 bits with a sign gives itself, another one the nearest double. Any
other number is a double already. -/
inductive Gives : Number → Value → Prop
  | int {number : Number} {integer : ℤ} (hinteger : number.integer? = some integer)
      (hfits : -2 ^ 63 ≤ integer ∧ integer < 2 ^ 63) : Gives number (.int integer)
  | double {number : Number} {integer : ℤ} {x : Float} (hinteger : number.integer? = some integer)
      (hbeyond : ¬(-2 ^ 63 ≤ integer ∧ integer < 2 ^ 63)) (hnearest : Nearest x integer) :
      Gives number (.float x)
  | real {x : Float} (hnearest : ∀ meant, rational? x = some meant → Nearest x meant) :
      Gives (.real x) (.float x)

end Number

namespace Document

/-- The value that a document tells. -/
inductive Tells : Document → Value → Prop
  | null : Tells .null .null
  | bool (flag : Bool) : Tells (.bool flag) (.bool flag)
  | number {number : Number} {value : Value} (hgives : number.Gives value) :
      Tells (.number number) value
  | string (text : String) : Tells (.string text) (.string text)
  | list {items : List Document} {values : List Value}
      (hitems : List.Forall₂ Tells items values) : Tells (.list items none) (.list values)
  | object {members : List (Except Fault String × Document)} {told entries : Fields Value}
      (hnames : members.map Prod.fst = told.keys.map .ok)
      (hvalues : List.Forall₂ Tells (members.map Prod.snd) (told.map Prod.snd))
      (horder : entries.keys = told.keys.eraseDups)
      (hlast : ∀ name, entries.get? name = Table.get? told.reverse name) :
      Tells (.object members none) (.mapping entries)

end Document

end Json

namespace Json.Document

end Json.Document

end WidgetTree
