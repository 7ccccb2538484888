import WidgetTree.Markup.Recipe
import WidgetTree.Proofs.Node.Saying

namespace WidgetTree.Markup

open Json

namespace AttributeValue

/-- A text, a truth value, or a number without suffix that fits in 32 bits with a sign. -/
inductive IsPlain : AttributeValue → Prop
  | text (source content : String) : IsPlain (.literal ⟨source, .text content⟩)
  | flag (value : Bool) : IsPlain (.flag value)
  | natural (source : String) {n : Nat} (hbound : n ≤ 2147483647) :
      IsPlain (.literal ⟨source, .integer n ""⟩)
  | negative (source : String) {n : Nat} (hbound : n ≤ 2147483648) :
      IsPlain (.negative ⟨source, .integer n ""⟩)

/-- A plain value as it stands in an object. -/
def document : AttributeValue → Document
  | literal ⟨_, .text content⟩ => .string content
  | literal ⟨_, .integer n _⟩ => .number (.natural n)
  | negative ⟨_, .integer 0 _⟩ => .number (.natural 0)
  | negative ⟨_, .integer n _⟩ => .number (.negative (-n))
  | flag value => .bool value
  | _ => .null

/-- The value that a plain value stands for. -/
def held (value : AttributeValue) : Value := value.plain?.getD .null

variable {value : AttributeValue}

/-- A value that is a text stands as that text in an object. -/
theorem document_of_text? {content : String} (htext : value.text? = some content) :
    value.document = .string content := by
  unfold text? at htext
  split at htext
  · cases htext
    rfl
  · cases htext

/-- In an object as in markup, a plain value stands for the same. -/
theorem IsPlain.value?_document (hplain : value.IsPlain) :
    value.plain? = some value.held ∧ value.document.value? = .ok value.held := by
  have hread : ∃ known, value.plain? = some known ∧ value.document.value? = .ok known := by
    cases hplain with
    | text source content => exact ⟨.string content, rfl, rfl⟩
    | flag value => exact ⟨.bool value, rfl, rfl⟩
    | @natural source n hbound =>
      refine ⟨.int n, ?_, ?_⟩
      · have hrange : (-2147483648 : Int) ≤ n ∧ (n : Int) ≤ 2147483647 := by omega
        simp [plain?, plainNumber?, hrange]
      · have hint : n ≤ greatestInt := Nat.le_trans hbound (by decide)
        simp [document, Document.value?, Number.value, hint]
    | @negative source n hbound =>
      refine ⟨.int (-n), ?_, ?_⟩
      · have hrange : (-2147483648 : Int) ≤ -n ∧ (-n : Int) ≤ 2147483647 := by omega
        simp [plain?, plainNumber?, hrange]
      · cases n with
        | zero => simp [document, Document.value?, Number.value]
        | succ n => simp [document, Document.value?, Number.value]
  obtain ⟨known, hplain, hvalue⟩ := hread
  rw [held, hplain]
  exact ⟨rfl, hvalue⟩

end AttributeValue

namespace Attribute

/-- The setting of a node that an attribute is about, by its qualifier and its name. -/
def field? (a : Attribute) : Option NodeField :=
  match a.qualifier with
  | none =>
    match a.name with
    | "id" => some .id
    | "kind" => some .kind
    | "attach" => some .attachStrategy
    | "children_attach" => some .childrenAttachStrategy
    | "bind" => some .binding
    | _ => some .constructorArgs
  | some "attach" => some .attachArgs
  | some "set" => some .attributes
  | some _ => none

/-- The attributes that are about a setting, in order. -/
def about (field : NodeField) (attributes : List Attribute) : List Attribute :=
  attributes.filter (·.field? = some field)

/-- Arguments as an object: the names in the order in which they first appear, each with the value
that it is given last. -/
def object (attributes : List Attribute) : Document :=
  .object ((attributes.map (·.name)).eraseDups.filterMap fun name =>
    (attributes.filter (·.name = name)).getLast?.map fun a => (.ok name, a.value.document)) none

/-- The names of attributes with the values that they stand for. -/
def pairs (attributes : List Attribute) : List (String × Value) :=
  attributes.map fun a => (a.name, a.value.held)

end Attribute

namespace Element

/-- What an element says for a setting: the first of its ids, its tag, the last attribute where one
value is due and all of them where arguments are. -/
def said (tag : String) (attributes : List Attribute) (children : List Document) :
    NodeField → Option Document
  | .id => (Attribute.about .id attributes).head?.map (·.value.document)
  | .widgetType => some (.string tag)
  | .kind => (Attribute.about .kind attributes).getLast?.map (·.value.document)
  | .attachStrategy => (Attribute.about .attachStrategy attributes).getLast?.map (·.value.document)
  | .childrenAttachStrategy =>
    (Attribute.about .childrenAttachStrategy attributes).getLast?.map (·.value.document)
  | .binding => (Attribute.about .binding attributes).getLast?.map (·.value.document)
  | .constructorArgs => some (Attribute.object (Attribute.about .constructorArgs attributes))
  | .attributes => some (Attribute.object (Attribute.about .attributes attributes))
  | .attachArgs => some (Attribute.object (Attribute.about .attachArgs attributes))
  | .sequence => none
  | .hook => none
  | .children => some (.list children none)

mutual

/-- The object that says what an element says. -/
def document : Element → Document
  | element tag attributes children _ => objectSaying (said tag attributes (documents children))

/-- The objects that say what several elements say. -/
def documents : List Element → List Document
  | [] => []
  | first :: rest => document first :: documents rest

end

/-- Every attribute of the element, and of the elements inside, has a plain value. -/
inductive IsPlain : Element → Prop
  | element {tag : String} {attributes : List Attribute} {children : List Element}
      {closesItself : Bool} (hattributes : ∀ a ∈ attributes, a.value.IsPlain)
      (hchildren : ∀ child ∈ children, IsPlain child) :
      IsPlain (.element tag attributes children closesItself)

end Element

namespace Attribute

variable {attributes : List Attribute}

private theorem pairs_filter (name : String) :
    (pairs attributes).filter (·.1 = name) = pairs (attributes.filter (·.name = name)) := by
  simp [pairs, List.filter_map, Function.comp_def]

/-- The members of the object of arguments are the entries of the table of all that was given. -/
theorem object_tabulates (hplain : ∀ a ∈ attributes, a.value.IsPlain) :
    TellsFields (object attributes) (Table.ofPairs (pairs attributes)) := by
  refine ⟨_, rfl, ?_⟩
  have hnames : Table.keys (pairs attributes) = attributes.map (·.name) := by
    simp [pairs, Table.keys, Function.comp_def]
  rw [Table.ofPairs_eq_filterMap, hnames]
  refine List.rel_filterMap ?_ (List.forall₂_same.mpr fun name _ => rfl)
  rintro name _ rfl
  dsimp only
  rw [pairs_filter, pairs, List.getLast?_map]
  cases hlast : (attributes.filter (·.name = name)).getLast? with
  | none => exact .none
  | some a =>
    have hmem : a ∈ attributes := List.mem_of_mem_filter (List.mem_of_getLast? hlast)
    exact .some ⟨rfl, (hplain a hmem).value?_document.2⟩

/-- Arguments in an object are read as the table of all that was given for them. -/
theorem fields?_object (hplain : ∀ a ∈ attributes, a.value.IsPlain) :
    (object attributes).fields? = .ok (Table.ofPairs (pairs attributes)) := by
  obtain ⟨members, hobject, htabulates⟩ := object_tabulates hplain
  rw [hobject, Document.fields?, entries?_eq_ok_iff.mpr htabulates]
  exact congrArg Except.ok (Table.ofPairs_eq_self (Table.distinct_ofPairs _))

end Attribute

end WidgetTree.Markup
