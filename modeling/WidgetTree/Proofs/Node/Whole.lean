import Mathlib
import WidgetTree.Proofs.Json.Whole
import WidgetTree.Proofs.Node.Retell

namespace WidgetTree

open Json

/-- The names of an object's members. -/
def memberNames (members : List (Except Fault String × Document)) : List String :=
  members.filterMap (·.1.toOption)

/-- A document stands where a child of a node is told: in the list of children of an object, or in
the place of that list in a list of settings. -/
inductive TellsChild : Document → Document → Prop
  | named {document child : Document} (hchild : HasChild document child) : TellsChild document child
  | placed {items nodes : List Document} {fault ending : Option Fault} {child : Document}
      (hplace : (.children, .list nodes ending) ∈ NodeField.all.zip items)
      (hchild : child ∈ nodes) : TellsChild (.list items fault) child

/-- Neither the document nor a child in it, at any depth, is an object with two members named alike.
The two ways of decoding differ where an object tells a setting twice under one name, since only one
of the two members is kept. -/
inductive NamesOnce : Document → Prop
  | intro {document : Document}
      (honce : ∀ members fault, document = .object members fault → (memberNames members).Nodup)
      (hchildren : ∀ child, TellsChild document child → NamesOnce child) : NamesOnce document

section Settings

variable {α β : Type} {read again : Document → Except Problem α} {document whole : Document}

private theorem ReadAlike.returning (halike : ReadAlike read again document) (change : α → β) :
    ReadAlike (fun document => do return change (← read document))
      (fun document => do return change (← again document)) document := by
  intro result
  simp only [except_bind_eq_ok_iff]
  constructor
  · rintro ⟨value, hvalue, hresult⟩
    obtain ⟨whole, hwhole, hagain⟩ := (halike value).mp hvalue
    exact ⟨whole, hwhole, value, hagain, hresult⟩
  · rintro ⟨whole, hwhole, value, hagain, hresult⟩
    exact ⟨value, (halike value).mpr ⟨whole, hwhole, hagain⟩, hresult⟩

private theorem Json.Document.whole?_eq_null_iff :
    document.whole? = .ok .null ↔ document = .null := by
  cases document with
  | null | bool | number | string | broken => simp [Document.whole?]
  | list items fault => simp [Document.whole?_list_eq_ok_iff]
  | object members fault => simp [Document.whole?_object_eq_ok_iff]

/-- Null is kept as it is, and nothing else is kept as null. -/
theorem ReadAlike.orNone {optional optionally : Document → Except Problem (Option α)}
    (halike : ReadAlike read again document) (hnone : optional .null = .ok none)
    (hnoneAgain : optionally .null = .ok none)
    (hsome : ∀ document, document ≠ .null → optional document = (read document).map some)
    (hsomeAgain : ∀ document, document ≠ .null → optionally document = (again document).map some) :
    ReadAlike optional optionally document := by
  intro result
  by_cases hnull : document = .null
  · subst hnull
    simp [Document.whole?, hnone, hnoneAgain]
  · have hkept : ∀ whole, document.whole? = .ok whole → whole ≠ .null := by
      rintro whole hwhole rfl
      exact hnull (Document.whole?_eq_null_iff.mp hwhole)
    rw [hsome document hnull, except_map_eq_ok_iff]
    constructor
    · rintro ⟨value, hvalue, hresult⟩
      obtain ⟨whole, hwhole, hagain⟩ := (halike value).mp hvalue
      rw [← hresult]
      exact ⟨whole, hwhole, by rw [hsomeAgain whole (hkept whole hwhole), hagain]; rfl⟩
    · rintro ⟨whole, hwhole, hresult⟩
      rw [hsomeAgain whole (hkept whole hwhole), except_map_eq_ok_iff] at hresult
      obtain ⟨value, hagain, hresult⟩ := hresult
      exact ⟨value, (halike value).mpr ⟨whole, hwhole, hagain⟩, hresult⟩

private theorem text?_readAlike (document : Document) :
    ReadAlike Document.text? Document.text? document := by
  intro text
  simp only [text?_eq_ok_iff, exists_eq_right]
  cases document with
  | null | bool | number | string | broken => simp [Document.whole?]
  | list items fault => simp [Document.whole?_list_eq_ok_iff]
  | object members fault => simp [Document.whole?_object_eq_ok_iff]

private theorem optionalText?_readAlike (document : Document) :
    ReadAlike Document.optionalText? Document.optionalText? document := by
  have hsome : ∀ document : Document, document ≠ .null →
      document.optionalText? = document.text?.map some := by
    intro document hnull
    cases document <;> first | rfl | exact absurd rfl hnull
  exact (text?_readAlike document).orNone rfl rfl hsome hsome

private theorem fields?_object_eq_ok_iff {members : List (Except Fault String × Document)}
    {fault : Option Fault} {fields : Fields Value} :
    (Document.object members fault).fields? = .ok fields ↔
      (Document.object members fault).value? = .ok (.mapping fields) := by
  simp only [Document.fields?, Document.value?, liftFault_eq_ok_iff, except_bind_eq_ok_iff, pure,
    Except.pure, Except.ok.injEq, Value.mapping.injEq]

private theorem fields?_readAlike (document : Document) :
    ReadAlike Document.fields? Document.fields? document := by
  intro fields
  cases document with
  | null | bool | number | string | broken => simp [Document.whole?, Document.fields?]
  | list items fault =>
    simp only [Document.whole?_list_eq_ok_iff]
    constructor
    · rintro ⟨⟩
    · rintro ⟨_, ⟨-, wholes, -, rfl⟩, ⟨⟩⟩
  | object members fault =>
    rw [fields?_object_eq_ok_iff, Document.value?_eq_ok_iff_whole]
    refine exists_congr fun whole => and_congr_right fun hwhole => ?_
    obtain ⟨-, wholes, -, rfl⟩ := Document.whole?_object_eq_ok_iff.mp hwhole
    rw [fields?_object_eq_ok_iff]

private theorem decodeSequence_readAlike (document : Document) :
    ReadAlike decodeSequence decodeSequence document := by
  intro sequence
  simp only [decodeSequence_eq_ok_iff_declares, DeclaresSequence]
  constructor
  · rintro ⟨value, hvalue, hdeclares⟩
    obtain ⟨whole, hwhole, hkept⟩ := Document.value?_eq_ok_iff_whole.mp hvalue
    exact ⟨whole, hwhole, value, hkept, hdeclares⟩
  · rintro ⟨whole, hwhole, value, hkept, hdeclares⟩
    exact ⟨value, Document.value?_eq_ok_iff_whole.mpr ⟨whole, hwhole, hkept⟩, hdeclares⟩

private theorem decodeOptionalSequence_readAlike (document : Document) :
    ReadAlike decodeOptionalSequence decodeOptionalSequence document := by
  have hsome : ∀ document : Document, document ≠ .null →
      decodeOptionalSequence document = (decodeSequence document).map some := by
    intro document hnull
    cases document <;> first | rfl | exact absurd rfl hnull
  exact (decodeSequence_readAlike document).orNone rfl rfl hsome hsome

private theorem decodeSetting_readAlike {field : NodeField} (hfield : field ≠ .children)
    (spec : NodeSpec) (document : Document) :
    ReadAlike (decodeSetting field · spec) (decodeSetting field · spec) document := by
  cases field with
  | id => exact (text?_readAlike document).returning _
  | kind | widgetType | attachStrategy | childrenAttachStrategy | binding =>
    exact (optionalText?_readAlike document).returning _
  | constructorArgs | attributes | attachArgs | hook =>
    exact (fields?_readAlike document).returning _
  | sequence => exact (decodeOptionalSequence_readAlike document).returning _
  | children => exact absurd rfl hfield

end Settings

section Nodes

variable {mode other : Mode}

/-- Nodes are decoded alike if each of them is. -/
theorem decodeNodes_eq_ok_iff_whole {items : List Document} {trees : List NodeTree}
    (halike : ∀ item ∈ items, ReadAlike (decodeNode mode) (decodeNode other) item) :
    decodeNodes mode items = .ok trees ↔
      ∃ wholes, Document.wholeItems? items = .ok wholes ∧
        decodeNodes other wholes = .ok trees := by
  simp only [decodeNodes_eq_ok_iff, Document.wholeItems?_eq_ok_iff]
  rw [← forall₂_exists_and_iff]
  exact forall₂_congr_of_mem fun item hitem tree => halike item hitem tree

/-- A list of children is decoded child by child. -/
theorem decodeField_list_eq_ok_iff {items : List Document} {fault : Option Fault}
    {draft final : NodeDraft} :
    decodeField mode .children (.list items fault) draft = .ok final ↔
      fault = none ∧ ∃ children, decodeNodes mode items = .ok children ∧
        final = ⟨.children :: draft.given, draft.spec, children⟩ := by
  simp only [decodeField, if_true, except_bind_eq_ok_iff, liftFault_eq_ok_iff,
    Document.closed_eq_ok_iff]
  constructor
  · rintro ⟨children, hchildren, -, hfault, ⟨⟩⟩
    exact ⟨hfault, children, hchildren, rfl⟩
  · rintro ⟨hfault, children, hchildren, rfl⟩
    exact ⟨children, hchildren, (), hfault, rfl⟩

/-- The children that are told by a document that gives a setting are decoded alike. -/
def ChildrenAlike (mode other : Mode) (field : NodeField) (document : Document) : Prop :=
  field = .children → ∀ nodes ending, document = .list nodes ending →
    ∀ node ∈ nodes, ReadAlike (decodeNode mode) (decodeNode other) node

private theorem decodeField_readAlike {field : NodeField} {document : Document}
    (halike : ChildrenAlike mode other field document) (draft : NodeDraft) :
    ReadAlike (decodeField mode field · draft) (decodeField other field · draft) document := by
  by_cases hfield : field = .children
  · subst hfield
    intro final
    cases document with
    | null | bool | number | string | broken => simp [Document.whole?, decodeField]
    | object members fault =>
      simp [decodeField, Document.whole?_object_eq_ok_iff]
    | list items fault =>
      simp only [decodeField_list_eq_ok_iff, Document.whole?_list_eq_ok_iff,
        decodeNodes_eq_ok_iff_whole (halike rfl items fault rfl)]
      constructor
      · rintro ⟨hfault, children, ⟨wholes, hwholes, hchildren⟩, hfinal⟩
        refine ⟨_, ⟨hfault, wholes, hwholes, rfl⟩, ?_⟩
        exact decodeField_list_eq_ok_iff.mpr ⟨rfl, children, hchildren, hfinal⟩
      · rintro ⟨_, ⟨hfault, wholes, hwholes, rfl⟩, hdecode⟩
        obtain ⟨-, children, hchildren, hfinal⟩ := decodeField_list_eq_ok_iff.mp hdecode
        exact ⟨hfault, children, ⟨wholes, hwholes, hchildren⟩, hfinal⟩
  · have hdecode : ∀ mode, (decodeField mode field · draft) = fun document => do
        return ⟨field :: draft.given, ← decodeSetting field document draft.spec,
          draft.children⟩ := by
      intro mode
      funext document
      rw [decodeField.eq_def]
      simp only [if_neg hfield]
    rw [hdecode, hdecode]
    exact (decodeSetting_readAlike hfield draft.spec document).returning _

/-- Members are decoded one after the other, each into the draft that those before it have left. -/
theorem decodeMembers_cons_ok_iff {name : String} {document : Document}
    {rest : List (Except Fault String × Document)} {draft final : NodeDraft} :
    decodeMembers mode ((.ok name, document) :: rest) draft = .ok final ↔
      ∃ field next, draft.accept name = .ok field ∧
        decodeField mode field document draft = .ok next ∧
        decodeMembers mode rest next = .ok final := by
  simp only [decodeMembers, except_bind_eq_ok_iff, liftFault_eq_ok_iff, Except.ok.injEq,
    exists_eq_left', exists_and_left]

private theorem decodeMembers_eq_ok_iff_whole {members : List (Except Fault String × Document)}
    (halike : ∀ name document, (.ok name, document) ∈ members → ∀ field,
      NodeField.ofName? name = some field → ChildrenAlike mode other field document)
    {draft final : NodeDraft} :
    decodeMembers mode members draft = .ok final ↔
      ∃ wholes, Document.wholeMembers? members = .ok wholes ∧
        decodeMembers other (Document.membersOf wholes) draft = .ok final := by
  induction members generalizing draft with
  | nil => simp [decodeMembers, Document.wholeMembers?, Document.membersOf]
  | cons member rest ih =>
    obtain ⟨named, document⟩ := member
    have hrest : ∀ draft, decodeMembers mode rest draft = .ok final ↔
        ∃ wholes, Document.wholeMembers? rest = .ok wholes ∧
          decodeMembers other (Document.membersOf wholes) draft = .ok final :=
      fun draft => ih fun name document hmember => halike name document (.tail _ hmember)
    constructor
    · intro hdecode
      obtain ⟨name, rfl⟩ : ∃ name, named = .ok name := by
        cases named with
        | ok name => exact ⟨name, rfl⟩
        | error fault => cases hdecode
      obtain ⟨field, next, hfield, hnext, hfinal⟩ := decodeMembers_cons_ok_iff.mp hdecode
      have hname := (NodeDraft.accept_eq_ok_iff.mp hfield).1
      obtain ⟨whole, hwhole, hagain⟩ := (decodeField_readAlike
        (halike name document List.mem_cons_self field hname) draft next).mp hnext
      obtain ⟨others, hothers, hrun⟩ := (hrest next).mp hfinal
      exact ⟨_, Document.wholeMembers?_cons_eq_ok_iff.mpr
          ⟨name, whole, others, rfl, hwhole, hothers, rfl⟩,
        decodeMembers_cons_ok_iff.mpr ⟨field, next, hfield, hagain, hrun⟩⟩
    · rintro ⟨_, hwholes, hrun⟩
      obtain ⟨name, whole, others, rfl, hwhole, hothers, rfl⟩ :=
        Document.wholeMembers?_cons_eq_ok_iff.mp hwholes
      obtain ⟨field, next, hfield, hagain, hfinal⟩ := decodeMembers_cons_ok_iff.mp hrun
      have hname := (NodeDraft.accept_eq_ok_iff.mp hfield).1
      have hnext := (decodeField_readAlike
        (halike name document List.mem_cons_self field hname) draft next).mpr
          ⟨whole, hwhole, hagain⟩
      exact decodeMembers_cons_ok_iff.mpr
        ⟨field, next, hfield, hnext, (hrest next).mpr ⟨others, hothers, hfinal⟩⟩

/-- The items of a list are decoded one after the other, each for the setting in its place. -/
theorem decodeFields_cons_ok_iff {field : NodeField} {fields : List NodeField}
    {document : Document} {items : List Document} {fault : Option Fault} {draft : NodeDraft}
    {result : NodeDraft × List Document} :
    decodeFields mode (field :: fields) (document :: items) fault draft = .ok result ↔
      ∃ next, decodeField mode field document draft = .ok next ∧
        decodeFields mode fields items fault next = .ok result := by
  simp only [decodeFields, except_bind_eq_ok_iff]

private theorem decodeFields_eq_ok_iff_whole {fields : List NodeField} {items : List Document}
    (halike : ∀ field document, (field, document) ∈ fields.zip items →
      ChildrenAlike mode other field document) {draft final : NodeDraft} :
    decodeFields mode fields items none draft = .ok (final, []) ↔
      ∃ wholes, Document.wholeItems? items = .ok wholes ∧
        decodeFields other fields wholes none draft = .ok (final, []) := by
  induction fields generalizing items draft with
  | nil =>
    cases items with
    | nil => simp [decodeFields, Document.wholeItems?]
    | cons item rest => simp [decodeFields, Document.wholeItems?_cons_eq_ok_iff]
  | cons field fields ih =>
    cases items with
    | nil => simp [decodeFields, Document.wholeItems?]
    | cons document items =>
      have hrest : ∀ draft, decodeFields mode fields items none draft = .ok (final, []) ↔
          ∃ wholes, Document.wholeItems? items = .ok wholes ∧
            decodeFields other fields wholes none draft = .ok (final, []) :=
        fun draft => ih fun field document hmem => halike field document (.tail _ hmem)
      have hfirst := decodeField_readAlike (halike field document List.mem_cons_self) draft
      rw [decodeFields_cons_ok_iff]
      constructor
      · rintro ⟨next, hnext, hfinal⟩
        obtain ⟨whole, hwhole, hagain⟩ := (hfirst next).mp hnext
        obtain ⟨others, hothers, hrun⟩ := (hrest next).mp hfinal
        exact ⟨_, Document.wholeItems?_cons_eq_ok_iff.mpr ⟨whole, others, hwhole, hothers, rfl⟩,
          decodeFields_cons_ok_iff.mpr ⟨next, hagain, hrun⟩⟩
      · rintro ⟨_, hwholes, hrun⟩
        obtain ⟨whole, others, hwhole, hothers, rfl⟩ :=
          Document.wholeItems?_cons_eq_ok_iff.mp hwholes
        obtain ⟨next, hagain, hfinal⟩ := decodeFields_cons_ok_iff.mp hrun
        exact ⟨next, (hfirst next).mpr ⟨whole, hwhole, hagain⟩,
          (hrest next).mpr ⟨others, hothers, hfinal⟩⟩

/-- An object describes a node if its members fill a draft that can be finished. -/
theorem decodeNode_object_ok_iff {members : List (Except Fault String × Document)}
    {fault : Option Fault} {tree : NodeTree} :
    decodeNode mode (.object members fault) = .ok tree ↔
      fault = none ∧ ∃ draft, decodeMembers mode members {} = .ok draft ∧
        draft.finish = .ok tree := by
  simp only [decodeNode, except_bind_eq_ok_iff, liftFault_eq_ok_iff, Document.closed_eq_ok_iff]
  constructor
  · rintro ⟨draft, hdraft, -, hfault, hfinish⟩
    exact ⟨hfault, draft, hdraft, hfinish⟩
  · rintro ⟨hfault, draft, hdraft, hfinish⟩
    exact ⟨draft, hdraft, (), hfault, hfinish⟩

private theorem endOfList_ok_iff {length : Nat} {surplus : List Document} {fault : Option Fault}
    {done : Unit} :
    endOfList mode length surplus fault = .ok done ↔ surplus = [] ∧ fault = none := by
  cases surplus with
  | nil => simp [endOfList, liftFault_eq_ok_iff, Document.closed_eq_ok_iff]
  | cons => cases mode <;> simp [endOfList]

/-- A list describes a node if its items fill a draft that can be finished, and none is left. -/
theorem decodeNode_list_ok_iff {items : List Document} {fault : Option Fault} {tree : NodeTree} :
    decodeNode mode (.list items fault) = .ok tree ↔
      fault = none ∧ ∃ draft, decodeFields mode NodeField.all items none {} = .ok (draft, []) ∧
        draft.finish = .ok tree := by
  simp only [decodeNode, except_bind_eq_ok_iff, endOfList_ok_iff]
  constructor
  · rintro ⟨⟨draft, surplus⟩, hdraft, _, hfinish, -, ⟨rfl, rfl⟩, ⟨⟩⟩
    exact ⟨rfl, draft, hdraft, hfinish⟩
  · rintro ⟨rfl, draft, hdraft, hfinish⟩
    exact ⟨(draft, []), hdraft, tree, hfinish, (), ⟨rfl, rfl⟩, rfl⟩

private theorem memberNames_eq_keys {members : List (Except Fault String × Document)}
    {wholes : Fields Document} (hwholes : Document.wholeMembers? members = .ok wholes) :
    memberNames members = wholes.keys := by
  rw [Document.wholeMembers?_eq_ok_iff] at hwholes
  induction hwholes with
  | nil => rfl
  | cons hmember _ ih =>
    rw [Table.keys_cons, ← ih]
    simp [memberNames, hmember.1, Except.toOption]

/-- However it is decoded, a node in which no object has two members named alike is decoded from the
document that is kept of it to the same tree. -/
theorem NamesOnce.decodeNode_readAlike {document : Document} (honce : NamesOnce document)
    (mode other : Mode) : ReadAlike (decodeNode mode) (decodeNode other) document := by
  induction honce with
  | @intro document honce hchildren ih =>
    intro tree
    cases document with
    | null | bool | number | string | broken => simp [decodeNode, Document.whole?]
    | list items fault =>
      have halike : ∀ field document, (field, document) ∈ NodeField.all.zip items →
          ChildrenAlike mode other field document := by
        rintro field document hplace rfl nodes ending rfl node hnode
        exact ih node (.placed hplace hnode)
      simp only [decodeNode_list_ok_iff, decodeFields_eq_ok_iff_whole halike,
        Document.whole?_list_eq_ok_iff]
      constructor
      · rintro ⟨hfault, draft, ⟨wholes, hwholes, hdraft⟩, hfinish⟩
        exact ⟨_, ⟨hfault, wholes, hwholes, rfl⟩,
          decodeNode_list_ok_iff.mpr ⟨rfl, draft, hdraft, hfinish⟩⟩
      · rintro ⟨_, ⟨hfault, wholes, hwholes, rfl⟩, hdecode⟩
        obtain ⟨-, draft, hdraft, hfinish⟩ := decodeNode_list_ok_iff.mp hdecode
        exact ⟨hfault, draft, ⟨wholes, hwholes, hdraft⟩, hfinish⟩
    | object members fault =>
      have halike : ∀ name document, (.ok name, document) ∈ members → ∀ field,
          NodeField.ofName? name = some field → ChildrenAlike mode other field document := by
        rintro name document hmember field hfield rfl nodes ending rfl node hnode
        obtain rfl := NodeField.ofName?_eq_some_children.mp hfield
        exact ih node (.named ⟨members, fault, nodes, ending, rfl, hmember, hnode⟩)
      -- since no name comes twice, nothing is merged in the object itself
      have hself : ∀ wholes, Document.wholeMembers? members = .ok wholes →
          Table.ofPairs wholes = wholes := by
        intro wholes hwholes
        have hnodup := honce members fault rfl
        rw [memberNames_eq_keys hwholes] at hnodup
        exact Table.ofPairs_eq_self hnodup
      simp only [decodeNode_object_ok_iff, decodeMembers_eq_ok_iff_whole halike,
        Document.whole?_object_eq_ok_iff]
      constructor
      · rintro ⟨hfault, draft, ⟨wholes, hwholes, hdraft⟩, hfinish⟩
        refine ⟨_, ⟨hfault, wholes, hwholes, rfl⟩,
          decodeNode_object_ok_iff.mpr ⟨rfl, draft, ?_, hfinish⟩⟩
        rw [hself wholes hwholes]
        exact hdraft
      · rintro ⟨_, ⟨hfault, wholes, hwholes, rfl⟩, hdecode⟩
        obtain ⟨-, draft, hdraft, hfinish⟩ := decodeNode_object_ok_iff.mp hdecode
        rw [hself wholes hwholes] at hdraft
        exact ⟨hfault, draft, ⟨wholes, hwholes, hdraft⟩, hfinish⟩

end Nodes

namespace NodeTree

/-- Whatever the text, if no object of a node in it has two members named alike, it is decoded
while it is read just if a document is kept of it and decoded, and to the same tree. -/
theorem ofText?_eq_ok_iff_ofDocument? {text : String}
    (honce : NamesOnce (Source.ofText nestingLimit text).document) {tree : NodeTree} :
    ofText? text = .ok tree ↔
      ∃ document, Document.ofText? text = .ok document ∧ ofDocument? document = .ok tree := by
  simp only [ofText?, ofDocument?_eq_ok_iff]
  exact (honce.decodeNode_readAlike .streamed .whole).decodeText_eq_ok_iff

/-- A node with an argument that is given twice, and a child. -/
def repeating : String :=
  "\x7b\"id\": \"a\", \"attributes\": \x7b\"x\": 1, \"y\": 2, \"x\": 3\x7d, " ++
    "\"children\": [\x7b\"id\": \"b\"\x7d]\x7d"

private theorem repeating_document :
    (Source.ofText nestingLimit repeating).document =
      .object [(.ok "id", .string "a"),
        (.ok "attributes",
          .object [(.ok "x", .number (.natural 1)), (.ok "y", .number (.natural 2)),
            (.ok "x", .number (.natural 3))] none),
        (.ok "children", .list [.object [(.ok "id", .string "b")] none] none)] none := by
  cbv

private theorem repeating_namesOnce :
    NamesOnce (Source.ofText nestingLimit repeating).document := by
  rw [repeating_document]
  refine .intro ?_ ?_
  · rintro members fault ⟨⟩
    decide
  · rintro child (⟨members, fault, items, ending, ⟨⟩, hmember, hchild⟩ | _)
    simp only [NodeField.name, List.mem_cons, Prod.mk.injEq, Except.ok.injEq, String.reduceEq,
      false_and, false_or, true_and, Document.list.injEq, List.not_mem_nil, or_false] at hmember
    obtain ⟨rfl, rfl⟩ := hmember
    obtain rfl := List.mem_singleton.mp hchild
    refine .intro ?_ ?_
    · rintro members fault ⟨⟩
      decide
    · rintro child (⟨members, fault, items, ending, ⟨⟩, hmember, hchild⟩ | _)
      simp at hmember

/-- Either way the argument stands where it was given first, with what was given last. -/
theorem repeating_read : NamesOnce (Source.ofText nestingLimit repeating).document ∧
    ∃ tree, ofText? repeating = .ok tree ∧
      (tree.spec.attributes.map fun entry => (entry.1, entry.2.int?)) =
        [("x", some 3), ("y", some 2)] ∧
      ∃ document, Document.ofText? repeating = .ok document ∧ ofDocument? document = .ok tree := by
  have hread : (ofText? repeating).toOption.map
      (fun tree => tree.spec.attributes.map fun entry => (entry.1, entry.2.int?)) =
        some [("x", some 3), ("y", some 2)] := by decide +kernel
  obtain ⟨tree, htree, hattributes⟩ := Option.map_eq_some_iff.mp hread
  have hdecoded : ofText? repeating = .ok tree := by
    cases houtcome : ofText? repeating with
    | error problem => simp [houtcome, Except.toOption] at htree
    | ok decoded => simpa [houtcome, Except.toOption] using htree
  exact ⟨repeating_namesOnce, tree, hdecoded, hattributes,
    (ofText?_eq_ok_iff_ofDocument? repeating_namesOnce).mp hdecoded⟩

end NodeTree

end WidgetTree
