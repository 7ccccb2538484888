import WidgetTree.Json.Text
import WidgetTree.Proofs.Node.Telling

namespace WidgetTree

open Json

namespace Json.Document

/-- The members of an object with these documents under these names. -/
def membersOf (documents : Fields Document) : List (Except Fault String × Document) :=
  documents.map fun entry => (.ok entry.1, entry.2)

mutual

/-- The document as it is kept as a whole, or the first fault in it. What is kept has no fault, and
of the members of an object that are named alike it has one, at the place of the first and with what
stands in the last. -/
def whole? : Document → Except Fault Document
  | null => .ok null
  | bool flag => .ok (bool flag)
  | number n => .ok (number n)
  | string text => .ok (string text)
  | list items fault => do
    let items ← wholeItems? items
    closed fault
    return list items none
  | object members fault => do
    let members ← wholeMembers? members
    closed fault
    return object (membersOf (Table.ofPairs members)) none
  | broken fault => .error fault

/-- Several documents as they are kept. -/
def wholeItems? : List Document → Except Fault (List Document)
  | [] => .ok []
  | item :: rest => do
    let item ← whole? item
    let items ← wholeItems? rest
    return item :: items

/-- Several members with their documents as they are kept. -/
def wholeMembers? : List (Except Fault String × Document) → Except Fault (Fields Document)
  | [] => .ok []
  | (name, item) :: rest => do
    let name ← name
    let item ← whole? item
    let members ← wholeMembers? rest
    return (name, item) :: members

end

/-- The document that is kept of a text. -/
def ofText? (text : String) : Except Problem Document :=
  decodeText (fun document => liftFault document.whole?) text

/-- A document stands in another as an item of it or in a member of it. -/
inductive Inside : Document → Document → Prop
  | item {item : Document} {items : List Document} {fault : Option Fault} (hitem : item ∈ items) :
      Inside item (.list items fault)
  | member {name : Except Fault String} {item : Document}
      {members : List (Except Fault String × Document)} {fault : Option Fault}
      (hmember : (name, item) ∈ members) : Inside item (.object members fault)

private theorem Inside.sizeOf_lt {inner outer : Document} (hinside : Inside inner outer) :
    sizeOf inner < sizeOf outer := by
  cases hinside with
  | item hitem =>
    have hlt := List.sizeOf_lt_of_mem hitem
    simp only [list.sizeOf_spec]
    omega
  | member hmember =>
    have hlt := List.sizeOf_lt_of_mem hmember
    simp only [Prod.mk.sizeOf_spec] at hlt
    simp only [object.sizeOf_spec]
    omega

/-- What a document has if the documents in it have it, every document has. -/
theorem inside_induction {property : Document → Prop}
    (hstep : ∀ document, (∀ inner, Inside inner document → property inner) → property document)
    (document : Document) : property document := by
  induction hsize : sizeOf document using Nat.strongRecOn generalizing document with
  | _ size ih =>
    subst hsize
    exact hstep document fun inner hinside => ih _ hinside.sizeOf_lt inner rfl

section Whole

variable {items : List Document} {members : List (Except Fault String × Document)}
  {fault : Option Fault} {document whole : Document}

/-- Documents are kept as a whole one by one. -/
theorem wholeItems?_eq_ok_iff {wholes : List Document} :
    wholeItems? items = .ok wholes ↔
      List.Forall₂ (fun item whole => item.whole? = .ok whole) items wholes := by
  induction items generalizing wholes with
  | nil => cases wholes <;> simp [wholeItems?]
  | cons item rest ih =>
    simp only [wholeItems?, except_bind_eq_ok_iff, ih, List.forall₂_cons_left_iff]
    constructor
    · rintro ⟨whole, hwhole, later, hlater, hwholes⟩
      exact ⟨whole, later, hwhole, hlater, (Except.ok.inj hwholes).symm⟩
    · rintro ⟨whole, later, hwhole, hlater, rfl⟩
      exact ⟨whole, hwhole, later, hlater, rfl⟩

/-- Documents are kept as a whole if the first is and the others are. -/
theorem wholeItems?_cons_eq_ok_iff {item : Document} {wholes : List Document} :
    wholeItems? (item :: items) = .ok wholes ↔
      ∃ whole others, item.whole? = .ok whole ∧ wholeItems? items = .ok others ∧
        wholes = whole :: others := by
  simp only [wholeItems?_eq_ok_iff, List.forall₂_cons_left_iff, exists_and_left]

/-- Members are kept as a whole, each under its name. -/
theorem wholeMembers?_eq_ok_iff {wholes : Fields Document} :
    wholeMembers? members = .ok wholes ↔
      List.Forall₂ (fun member whole => member.1 = .ok whole.1 ∧ member.2.whole? = .ok whole.2)
        members wholes := by
  induction members generalizing wholes with
  | nil => cases wholes <;> simp [wholeMembers?]
  | cons member rest ih =>
    obtain ⟨named, item⟩ := member
    simp only [wholeMembers?, except_bind_eq_ok_iff, ih]
    constructor
    · rintro ⟨name, rfl, whole, hwhole, more, hmore, hwholes⟩
      obtain rfl := Except.ok.inj hwholes
      exact .cons ⟨rfl, hwhole⟩ hmore
    · rintro (_ | ⟨⟨hname, hwhole⟩, hmore⟩)
      exact ⟨_, hname, _, hwhole, _, hmore, rfl⟩

/-- Members are kept as a whole if the first is and the others are. -/
theorem wholeMembers?_cons_eq_ok_iff {name : Except Fault String} {item : Document}
    {wholes : Fields Document} :
    wholeMembers? ((name, item) :: members) = .ok wholes ↔
      ∃ known whole others, name = .ok known ∧ item.whole? = .ok whole ∧
        wholeMembers? members = .ok others ∧ wholes = (known, whole) :: others := by
  simp only [wholeMembers?_eq_ok_iff, List.forall₂_cons_left_iff]
  constructor
  · rintro ⟨⟨known, whole⟩, others, ⟨hname, hwhole⟩, hothers, rfl⟩
    exact ⟨known, whole, others, hname, hwhole, hothers, rfl⟩
  · rintro ⟨known, whole, others, hname, hwhole, hothers, rfl⟩
    exact ⟨(known, whole), others, ⟨hname, hwhole⟩, hothers, rfl⟩

/-- What has no fault is closed. -/
theorem closed_eq_ok_iff {done : Unit} : closed fault = .ok done ↔ fault = none := by
  cases fault <;> simp [closed]

/-- What is made of the parts of a list or an object is made if no part fails and the end is due
where it stands. -/
theorem bind_closed_eq_ok_iff {α β : Type} {parts : Except Fault α} {make : α → β} {result : β} :
    (do let made ← parts
        closed fault
        return make made) = .ok result ↔
      fault = none ∧ ∃ made, parts = .ok made ∧ result = make made := by
  simp only [except_bind_eq_ok_iff, closed_eq_ok_iff]
  constructor
  · rintro ⟨made, hmade, -, hfault, hresult⟩
    exact ⟨hfault, made, hmade, (Except.ok.inj hresult).symm⟩
  · rintro ⟨hfault, made, hmade, rfl⟩
    exact ⟨made, hmade, (), hfault, rfl⟩

/-- A list is kept as the list of the documents that are kept of its items. -/
theorem whole?_list_eq_ok_iff :
    (list items fault).whole? = .ok whole ↔
      fault = none ∧ ∃ wholes, wholeItems? items = .ok wholes ∧ whole = list wholes none := by
  rw [whole?, bind_closed_eq_ok_iff]

/-- An object is kept as what is kept of its members, one for each name. -/
theorem whole?_object_eq_ok_iff :
    (object members fault).whole? = .ok whole ↔
      fault = none ∧ ∃ wholes, wholeMembers? members = .ok wholes ∧
        whole = object (membersOf (Table.ofPairs wholes)) none := by
  rw [whole?, bind_closed_eq_ok_iff]

end Whole

section Values

variable {items : List Document} {members : List (Except Fault String × Document)}
  {fault : Option Fault} {document whole : Document} {value : Value}

/-- A list holds the values of its items. -/
theorem value?_list_eq_ok_iff :
    (list items fault).value? = .ok value ↔
      fault = none ∧ ∃ values, values? items = .ok values ∧ value = .list values := by
  rw [value?, bind_closed_eq_ok_iff]

/-- An object holds the values of its members, one for each name. -/
theorem value?_object_eq_ok_iff :
    (object members fault).value? = .ok value ↔
      fault = none ∧ ∃ fields, Tabulates members fields ∧
        value = .mapping (Table.ofPairs fields) := by
  rw [value?, bind_closed_eq_ok_iff]
  simp only [entries?_eq_ok_iff]

/-- The members of an object of documents are its values, name by name. -/
theorem tabulates_of_matches {wholes : Fields Document} {fields : Fields Value}
    (hmatches : Table.Matches (fun item value => item.value? = .ok value) wholes fields) :
    Tabulates (membersOf wholes) fields := by
  refine List.forall₂_map_left_iff.mpr (hmatches.imp ?_)
  rintro whole field ⟨hname, hvalue⟩
  exact ⟨congrArg Except.ok hname, hvalue⟩

/-- A document of which one is kept holds the same value as the one that is kept. -/
theorem exists_value_of_whole? (hwhole : document.whole? = .ok whole) :
    ∃ value, document.value? = .ok value ∧ whole.value? = .ok value := by
  induction document using inside_induction generalizing whole with
  | _ document ih =>
    cases document with
    | null | bool | number | string =>
      cases hwhole
      exact ⟨_, rfl, rfl⟩
    | broken => cases hwhole
    | list items fault =>
      obtain ⟨rfl, wholes, hwholes, rfl⟩ := whole?_list_eq_ok_iff.mp hwhole
      obtain ⟨values, hkept, hvalues⟩ := exists_forall₂_of_made (wholeItems?_eq_ok_iff.mp hwholes)
        fun item hitem whole hwhole => by
          obtain ⟨value, hvalue, hkept⟩ := ih item (.item hitem) hwhole
          exact ⟨value, hkept, hvalue⟩
      refine ⟨.list values, value?_list_eq_ok_iff.mpr ⟨rfl, values, ?_, rfl⟩,
        value?_list_eq_ok_iff.mpr ⟨rfl, values, ?_, rfl⟩⟩
      · exact values?_eq_ok_iff.mpr hvalues
      · exact values?_eq_ok_iff.mpr hkept
    | object members fault =>
      obtain ⟨rfl, wholes, hwholes, rfl⟩ := whole?_object_eq_ok_iff.mp hwhole
      have hmade := wholeMembers?_eq_ok_iff.mp hwholes
      have heach : ∀ member ∈ members, ∀ whole : String × Document,
          member.1 = .ok whole.1 ∧ member.2.whole? = .ok whole.2 →
            ∃ field : String × Value, (whole.1 = field.1 ∧ whole.2.value? = .ok field.2) ∧
              member.1 = .ok field.1 ∧ member.2.value? = .ok field.2 := by
        rintro ⟨named, item⟩ hmember whole ⟨hname, hitem⟩
        obtain ⟨value, hvalue, hkept⟩ := ih item (.member hmember) hitem
        exact ⟨(whole.1, value), ⟨rfl, hkept⟩, hname, hvalue⟩
      obtain ⟨fields, hkept, hfields⟩ := exists_forall₂_of_made hmade heach
      have hmatches : Table.Matches (fun item value => item.value? = .ok value)
          (Table.ofPairs wholes) (Table.ofPairs fields) := Table.Matches.insertAll .nil hkept
      refine ⟨.mapping (Table.ofPairs fields),
        value?_object_eq_ok_iff.mpr ⟨rfl, fields, hfields, rfl⟩,
        value?_object_eq_ok_iff.mpr ⟨rfl, Table.ofPairs fields, tabulates_of_matches hmatches, ?_⟩⟩
      rw [Table.ofPairs_eq_self (Table.distinct_ofPairs fields)]

/-- A document that holds a value is kept. -/
theorem exists_whole_of_value? (hvalue : document.value? = .ok value) :
    ∃ whole, document.whole? = .ok whole := by
  induction document using inside_induction generalizing value with
  | _ document ih =>
    cases document with
    | null | bool | number | string => exact ⟨_, rfl⟩
    | broken => cases hvalue
    | list items fault =>
      obtain ⟨rfl, values, hvalues, -⟩ := value?_list_eq_ok_iff.mp hvalue
      rw [values?_eq_ok_iff] at hvalues
      have heach : ∀ item ∈ items, ∃ whole, item.whole? = .ok whole := by
        intro item hitem
        obtain ⟨value, hvalue⟩ := exists_image_of_mem hvalues hitem
        exact ih item (.item hitem) hvalue
      obtain ⟨wholes, hwholes⟩ := exists_forall₂ heach
      exact ⟨_, whole?_list_eq_ok_iff.mpr ⟨rfl, wholes, wholeItems?_eq_ok_iff.mpr hwholes, rfl⟩⟩
    | object members fault =>
      obtain ⟨rfl, fields, hfields, -⟩ := value?_object_eq_ok_iff.mp hvalue
      have heach : ∀ member ∈ members, ∃ whole : String × Document,
          member.1 = .ok whole.1 ∧ member.2.whole? = .ok whole.2 := by
        rintro ⟨named, item⟩ hmember
        obtain ⟨field, hname, hvalue⟩ := exists_image_of_mem hfields hmember
        obtain ⟨whole, hwhole⟩ := ih item (.member hmember) hvalue
        exact ⟨(field.1, whole), hname, hwhole⟩
      obtain ⟨wholes, hwholes⟩ := exists_forall₂ heach
      exact ⟨_, whole?_object_eq_ok_iff.mpr
        ⟨rfl, wholes, wholeMembers?_eq_ok_iff.mpr hwholes, rfl⟩⟩

/-- The value that a document holds is the value of the document that is kept. -/
theorem value?_eq_ok_iff_whole :
    document.value? = .ok value ↔
      ∃ whole, document.whole? = .ok whole ∧ whole.value? = .ok value := by
  constructor
  · intro hvalue
    obtain ⟨whole, hwhole⟩ := exists_whole_of_value? hvalue
    obtain ⟨same, hsame, hkept⟩ := exists_value_of_whole? hwhole
    obtain rfl := Except.ok.inj (hvalue.symm.trans hsame)
    exact ⟨whole, hwhole, hkept⟩
  · rintro ⟨whole, hwhole, hkept⟩
    obtain ⟨same, hsame, hagain⟩ := exists_value_of_whole? hwhole
    obtain rfl := Except.ok.inj (hkept.symm.trans hagain)
    exact hsame

end Values

end Json.Document

/-- A text is decoded as what it spells, with nothing behind it. -/
theorem decodeText_eq_ok_iff {α : Type} {decode : Document → Except Problem α} {text : String}
    {result : α} :
    decodeText decode text = .ok result ↔
      decode (Source.ofText nestingLimit text).document = .ok result ∧
        (Source.ofText nestingLimit text).trailing = none := by
  simp only [decodeText, except_bind_eq_ok_iff, liftFault_eq_ok_iff, Document.closed_eq_ok_iff]
  constructor
  · rintro ⟨_, hdecode, -, htrailing, ⟨⟩⟩
    exact ⟨hdecode, htrailing⟩
  · rintro ⟨hdecode, htrailing⟩
    exact ⟨result, hdecode, (), htrailing, rfl⟩

/-- Reading from a document at once succeeds just if one is kept of it and reading from that one
does, with the same result. -/
def ReadAlike {α : Type} (read again : Document → Except Problem α) (document : Document) : Prop :=
  ∀ result, read document = .ok result ↔
    ∃ whole, document.whole? = .ok whole ∧ again whole = .ok result

/-- What reads documents alike reads texts alike, at once or from the document that is kept of the
text. -/
theorem ReadAlike.decodeText_eq_ok_iff {α : Type} {read again : Document → Except Problem α}
    {text : String} (halike : ReadAlike read again (Source.ofText nestingLimit text).document)
    {result : α} :
    decodeText read text = .ok result ↔
      ∃ document, Document.ofText? text = .ok document ∧ again document = .ok result := by
  simp only [Document.ofText?, WidgetTree.decodeText_eq_ok_iff, liftFault_eq_ok_iff]
  rw [halike]
  constructor
  · rintro ⟨⟨whole, hwhole, hagain⟩, htrailing⟩
    exact ⟨whole, ⟨hwhole, htrailing⟩, hagain⟩
  · rintro ⟨whole, ⟨hwhole, htrailing⟩, hagain⟩
    exact ⟨⟨whole, hwhole, hagain⟩, htrailing⟩

end WidgetTree
