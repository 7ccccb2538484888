import WidgetTree.Proofs.Node.Telling

namespace WidgetTree

open Json

/-- Null is as good as nothing. -/
def unlessNull : Option Document → Option Document
  | some .null => none
  | said => said

/-- What an object's members say for a setting. -/
def saidBy (members : List (Except Fault String × Document)) (field : NodeField) :
    Option Document :=
  unlessNull ((givenBy members).get? field)

/-- The documents that an object's members list as children. -/
def ListsChildren (members : List (Except Fault String × Document)) (items : List Document) :
    Prop :=
  saidBy members .children = none ∧ items = [] ∨
    saidBy members .children = some (.list items none)

/-- `child` is told among the children of `document`. -/
def HasChild (document child : Document) : Prop :=
  ∃ members fault items ending, document = .object members fault ∧
    (.ok NodeField.children.name, .list items ending) ∈ members ∧ child ∈ items

/-- Neither the document nor a child in it, at any depth, is a list. -/
inductive ByName : Document → Prop
  | intro {document : Document} (hlist : ∀ items fault, document ≠ .list items fault)
      (hchildren : ∀ child, HasChild document child → ByName child) : ByName document

namespace NodeField

/-- The settings that are texts or nothing. -/
def texts : List NodeField := [kind, widgetType, attachStrategy, childrenAttachStrategy, binding]

/-- The settings that are arguments or nothing. -/
def arguments : List NodeField := [constructorArgs, attributes, attachArgs, hook]

end NodeField

/-- The form of a configuration sequence: an object, or a list of sequences. -/
inductive SequenceForm : Document → Prop
  | object (members : List (Except Fault String × Document)) : SequenceForm (.object members none)
  | list {items : List Document} (hitems : ∀ item ∈ items, SequenceForm item) :
      SequenceForm (.list items none)

/-- The form of a node. -/
inductive NodeForm : Document → Prop
  | object {members : List (Except Fault String × Document)} {items : List Document}
      (hrecognized : Recognized members)
      (honce : (givenBy members).Distinct)
      (hid : ∃ text, (givenBy members).get? .id = some (.string text))
      (htexts : ∀ field ∈ NodeField.texts, ∀ said ∈ saidBy members field,
        ∃ text, said = .string text)
      (harguments : ∀ field ∈ NodeField.arguments, ∀ said ∈ saidBy members field,
        ∃ entries, said = .object entries none)
      (hsequence : ∀ said ∈ saidBy members .sequence, SequenceForm said)
      (hlists : ListsChildren members items)
      (hchildren : ∀ child ∈ items, NodeForm child) :
      NodeForm (.object members none)

/-- Arguments as they are said, none where nothing is. -/
def SaysFields (said : Option Document) (fields : Fields Value) : Prop :=
  said = none ∧ fields = [] ∨ ∃ document, said = some document ∧ TellsFields document fields

/-- The settings are what an object's members say for them. -/
structure NodeSpec.SaidBy (spec : NodeSpec) (members : List (Except Fault String × Document)) :
    Prop where
  id : (givenBy members).get? .id = some (.string spec.id)
  kind : saidBy members .kind = spec.kind.map .string
  widgetType : saidBy members .widgetType = spec.widgetType.map .string
  attachStrategy : saidBy members .attachStrategy = spec.attachStrategy.map .string
  childrenAttachStrategy :
    saidBy members .childrenAttachStrategy = spec.childrenAttachStrategy.map .string
  constructorArgs : SaysFields (saidBy members .constructorArgs) spec.constructorArgs
  attributes : SaysFields (saidBy members .attributes) spec.attributes
  attachArgs : SaysFields (saidBy members .attachArgs) spec.attachArgs
  sequence : Option.Rel TellsSequence (saidBy members .sequence) spec.sequence
  hook : ∃ fields, SaysFields (saidBy members .hook) fields ∧ spec.hook = Call.ofMapping fields
  binding : saidBy members .binding = spec.binding.map .string

/-- A document describes a tree: the top node has the settings that are said, and the trees that the
children describe are inside it in order, each attaching as the node says unless it says so
itself. -/
inductive Describes : Document → NodeTree → Prop
  | object {members : List (Except Fault String × Document)} {items : List Document}
      {spec : NodeSpec} {trees : List NodeTree}
      (hrecognized : Recognized members)
      (honce : (givenBy members).Distinct)
      (hspec : spec.SaidBy members)
      (hlists : ListsChildren members items)
      (hchildren : List.Forall₂ Describes items trees) :
      Describes (.object members none)
        (.node spec (trees.map fun tree =>
          tree.mapSpec fun child =>
            { child with attachStrategy := child.attachStrategy.or spec.childrenAttachStrategy }))

section Settings

/-- A setting was read from what was given for it, or is as it was. -/
def ReadFrom {α : Type} (read : Document → Except Problem α) (default : α)
    (given : Option Document) (part : α) : Prop :=
  match given with
  | none => part = default
  | some document => read document = .ok part

variable {given : Option Document}

/-- A document is read as a text if it is one. -/
theorem text?_eq_ok_iff {document : Document} {text : String} :
    document.text? = .ok text ↔ document = .string text := by
  cases document <;> simp [Document.text?]

private theorem readFrom_optionalText?_iff {part : Option String} :
    ReadFrom Document.optionalText? none given part ↔ unlessNull given = part.map .string := by
  match given with
  | none => cases part <;> simp [ReadFrom, unlessNull]
  | some .null => cases part <;> simp [ReadFrom, unlessNull, Document.optionalText?]
  | some (.string text) =>
    cases part <;> simp [ReadFrom, unlessNull, Document.optionalText?, Document.text?, Except.map]
  | some (.bool _) | some (.number _) | some (.list _ _) | some (.object _ _) | some (.broken _) =>
    cases part <;> simp [ReadFrom, unlessNull, Document.optionalText?, Document.text?, Except.map]

/-- A document that is not null counts. -/
theorem unlessNull_some {document : Document} (hnull : document ≠ .null) :
    unlessNull (some document) = some document := by
  cases document <;> first | rfl | exact absurd rfl hnull

private theorem readFrom_fields?_iff (hintact : ∀ document ∈ given, document.Intact)
    {part : Fields Value} :
    ReadFrom Document.fields? [] given part ↔ SaysFields (unlessNull given) part := by
  cases given with
  | none => simp [ReadFrom, SaysFields, unlessNull]
  | some document =>
    by_cases hnull : document = .null
    · subst hnull
      simp [ReadFrom, SaysFields, unlessNull, Document.fields?, eq_comm]
    · have hfields : document.fields? = .ok part ↔ TellsFields document part :=
        (hintact document rfl).fields?_eq_ok_iff hnull
      simp [ReadFrom, SaysFields, unlessNull_some hnull, hfields]

private theorem readFrom_calls_iff (hintact : ∀ document ∈ given, document.Intact)
    {part : List Call} :
    ReadFrom (fun document => document.fields?.map Call.ofMapping) [] given part ↔
      ∃ fields, SaysFields (unlessNull given) fields ∧ part = Call.ofMapping fields := by
  simp only [← readFrom_fields?_iff hintact]
  cases given with
  | none => simp [ReadFrom, Call.ofMapping]
  | some document =>
    simp only [ReadFrom, except_map_eq_ok_iff]
    exact exists_congr fun fields => and_congr_right fun _ => eq_comm

private theorem readFrom_sequence_iff (hintact : ∀ document ∈ given, document.Intact)
    {part : Option ConfigSequence} :
    ReadFrom decodeOptionalSequence none given part ↔
      Option.Rel TellsSequence (unlessNull given) part := by
  cases given with
  | none => cases part <;> simp [ReadFrom, unlessNull]
  | some document =>
    by_cases hnull : document = .null
    · subst hnull
      cases part <;> simp [ReadFrom, unlessNull, decodeOptionalSequence]
    · have hsequence : ∀ sequence, decodeSequence document = .ok sequence ↔
          TellsSequence document sequence :=
        fun _ => (hintact document rfl).decodeSequence_eq_ok_iff
      have hdecode : decodeOptionalSequence document = (decodeSequence document).map some := by
        cases document <;> first | rfl | exact absurd rfl hnull
      simp only [ReadFrom, unlessNull_some hnull, hdecode, except_map_eq_ok_iff, hsequence]
      cases part <;> simp

private theorem readFrom_children_iff (hintact : ∀ document ∈ given, document.Intact) {mode : Mode}
    {trees : List NodeTree} :
    ReadFrom (NodeField.readChildren mode) [] given trees ↔
      ∃ items, (unlessNull given = none ∧ items = [] ∨ unlessNull given = some (.list items none)) ∧
        decodeNodes mode items = .ok trees := by
  match given, hintact with
  | none, _ => simp [ReadFrom, unlessNull, decodeNodes, eq_comm]
  | some .null, _ => simp [ReadFrom, unlessNull, NodeField.readChildren, decodeNodes]
  | some (.list items fault), hintact =>
    obtain rfl : fault = none := by
      cases hintact _ rfl
      rfl
    simp [ReadFrom, unlessNull, NodeField.readChildren, except_bind_eq_ok_iff, liftFault_eq_ok_iff,
      closed, pure, Except.pure]
  | some (.bool _), _ | some (.number _), _ | some (.string _), _ | some (.object _ _), _
  | some (.broken _), _ => simp [ReadFrom, unlessNull, NodeField.readChildren]

end Settings

section Node

variable {members : List (Except Fault String × Document)} {mode : Mode}

private theorem NodeDraft.Filled.readFrom {draft : NodeDraft}
    (hfilled : NodeDraft.Filled mode members {} draft) (field : NodeField) :
    ReadFrom (field.read mode) (({} : NodeDraft).part field) ((givenBy members).get? field)
      (draft.part field) := by
  cases hgiven : (givenBy members).get? field with
  | none => exact hfilled.kept field (Table.get?_eq_none_iff.mp hgiven)
  | some document => exact hfilled.told field document hgiven

/-- A draft is filled by members that are recognized, with no setting given twice, and each part is
read from what is given for its setting. -/
theorem NodeDraft.filled_iff_readFrom {draft : NodeDraft} :
    NodeDraft.Filled mode members {} draft ↔
      Recognized members ∧ (givenBy members).Distinct ∧
        draft.given = (givenBy members).keys.reverse ∧
        ∀ field, ReadFrom (field.read mode) (({} : NodeDraft).part field)
          ((givenBy members).get? field) (draft.part field) := by
  constructor
  · intro hfilled
    exact ⟨hfilled.recognized, hfilled.once, by simpa using hfilled.given, hfilled.readFrom⟩
  · rintro ⟨hrecognized, honce, hgiven, hread⟩
    refine ⟨hrecognized, honce, by simp, by simpa using hgiven, ?_, ?_⟩
    · intro field document hget
      simpa [ReadFrom, hget] using hread field
    · intro field hmissing
      simpa [ReadFrom, Table.get?_eq_none_iff.mpr hmissing] using hread field

private theorem mem_of_get?_givenBy {field : NodeField} {document : Document}
    (hget : (givenBy members).get? field = some document) :
    ∃ name, field.answersTo name = true ∧ (.ok name, document) ∈ members := by
  have hmem := Table.mem_of_get? hget
  obtain ⟨⟨named, told⟩, hmember, hgives⟩ := List.mem_filterMap.mp hmem
  cases named with
  | error fault => simp at hgives
  | ok name =>
    simp only [Option.map_eq_some_iff, Prod.mk.injEq] at hgives
    obtain ⟨_, hfield, rfl, rfl⟩ := hgives
    exact ⟨name, NodeField.ofName?_eq_some_iff.mp hfield, hmember⟩

/-- The members of an intact object are intact. -/
theorem Json.Document.Intact.of_mem (hintact : Document.Intact (.object members none))
    {member : Except Fault String × Document} (hmember : member ∈ members) : member.2.Intact := by
  cases hintact with
  | object _ _ _ hmembers => exact hmembers member hmember

/-- What an intact object gives for a setting is intact. -/
theorem Json.Document.Intact.of_given (hintact : Document.Intact (.object members none))
    {field : NodeField} : ∀ document ∈ (givenBy members).get? field, document.Intact := by
  intro document hget
  obtain ⟨name, -, hmember⟩ := mem_of_get?_givenBy hget
  exact hintact.of_mem hmember

/-- The members of an object fill an empty draft with what they say. -/
theorem NodeDraft.readFrom_iff_saidBy (hintact : Document.Intact (.object members none))
    {draft : NodeDraft} :
    ((∀ field, ReadFrom (field.read mode) (({} : NodeDraft).part field)
        ((givenBy members).get? field) (draft.part field)) ∧ .id ∈ (givenBy members).keys) ↔
      draft.spec.SaidBy members ∧
        ∃ items, ListsChildren members items ∧ decodeNodes mode items = .ok draft.children := by
  have hfields : ∀ field part, ReadFrom Document.fields? [] ((givenBy members).get? field) part ↔
      SaysFields (saidBy members field) part := fun _ _ => readFrom_fields?_iff hintact.of_given
  constructor
  · rintro ⟨hread, hid⟩
    obtain ⟨told, htold⟩ := Table.mem_keys_iff.mp hid
    have hname : told.text? = .ok draft.spec.id := by
      have hreadId := hread .id
      rw [htold] at hreadId
      exact hreadId
    refine ⟨?_, (readFrom_children_iff hintact.of_given).mp (hread .children)⟩
    exact {
      id := by rw [htold, text?_eq_ok_iff.mp hname]
      kind := readFrom_optionalText?_iff.mp (hread .kind)
      widgetType := readFrom_optionalText?_iff.mp (hread .widgetType)
      attachStrategy := readFrom_optionalText?_iff.mp (hread .attachStrategy)
      childrenAttachStrategy := readFrom_optionalText?_iff.mp (hread .childrenAttachStrategy)
      constructorArgs := (hfields _ _).mp (hread .constructorArgs)
      attributes := (hfields _ _).mp (hread .attributes)
      attachArgs := (hfields _ _).mp (hread .attachArgs)
      sequence := (readFrom_sequence_iff hintact.of_given).mp (hread .sequence)
      hook := (readFrom_calls_iff hintact.of_given).mp (hread .hook)
      binding := readFrom_optionalText?_iff.mp (hread .binding) }
  · rintro ⟨hspec, hchildren⟩
    refine ⟨fun field => ?_, Table.mem_keys_of_get? hspec.id⟩
    cases field with
    | id => simp [ReadFrom, hspec.id, NodeField.read, Document.text?, NodeDraft.part]
    | kind => exact readFrom_optionalText?_iff.mpr hspec.kind
    | widgetType => exact readFrom_optionalText?_iff.mpr hspec.widgetType
    | attachStrategy => exact readFrom_optionalText?_iff.mpr hspec.attachStrategy
    | childrenAttachStrategy => exact readFrom_optionalText?_iff.mpr hspec.childrenAttachStrategy
    | constructorArgs => exact (hfields _ _).mpr hspec.constructorArgs
    | attributes => exact (hfields _ _).mpr hspec.attributes
    | attachArgs => exact (hfields _ _).mpr hspec.attachArgs
    | sequence => exact (readFrom_sequence_iff hintact.of_given).mpr hspec.sequence
    | hook => exact (readFrom_calls_iff hintact.of_given).mpr hspec.hook
    | binding => exact readFrom_optionalText?_iff.mpr hspec.binding
    | children => exact (readFrom_children_iff hintact.of_given).mpr hchildren

/-- What an object is decoded to is said by its members, the children apart, which are decoded in
turn. -/
theorem decodeNode_object_eq_ok_iff_saidBy (hintact : Document.Intact (.object members none))
    {tree : NodeTree} :
    decodeNode mode (.object members none) = .ok tree ↔
      Recognized members ∧ (givenBy members).Distinct ∧
        ∃ spec items trees, NodeSpec.SaidBy spec members ∧ ListsChildren members items ∧
          decodeNodes mode items = .ok trees ∧ tree = .settled spec trees := by
  rw [decodeNode_object_eq_ok_iff]
  constructor
  · rintro ⟨draft, hfilled, hid, rfl⟩
    obtain ⟨hrecognized, honce, -, hread⟩ := NodeDraft.filled_iff_readFrom.mp hfilled
    obtain ⟨hspec, items, hlists, hitems⟩ :=
      (NodeDraft.readFrom_iff_saidBy hintact).mp ⟨hread, hid⟩
    exact ⟨hrecognized, honce, draft.spec, items, draft.children, hspec, hlists, hitems, rfl⟩
  · rintro ⟨hrecognized, honce, spec, items, trees, hspec, hlists, hitems, rfl⟩
    let draft : NodeDraft := ⟨(givenBy members).keys.reverse, spec, trees⟩
    obtain ⟨hread, hid⟩ :=
      (@NodeDraft.readFrom_iff_saidBy members mode hintact draft).mpr
        ⟨hspec, items, hlists, hitems⟩
    exact ⟨draft, NodeDraft.filled_iff_readFrom.mpr ⟨hrecognized, honce, rfl, hread⟩, hid, rfl⟩

/-- Nodes are decoded one by one. -/
theorem decodeNodes_eq_ok_iff {documents : List Document} {trees : List NodeTree} :
    decodeNodes mode documents = .ok trees ↔
      List.Forall₂ (fun document tree => decodeNode mode document = .ok tree) documents trees := by
  induction documents generalizing trees with
  | nil => cases trees <;> simp [decodeNodes]
  | cons document rest ih =>
    simp only [decodeNodes, except_bind_eq_ok_iff, ih, List.forall₂_cons_left_iff]
    constructor
    · rintro ⟨tree, htree, later, hlater, htrees⟩
      exact ⟨tree, later, htree, hlater, (Except.ok.inj htrees).symm⟩
    · rintro ⟨tree, later, htree, hlater, rfl⟩
      exact ⟨tree, htree, later, hlater, rfl⟩

/-- Members that list children hold the list under its name. -/
theorem ListsChildren.mem {items : List Document} (hlists : ListsChildren members items)
    {child : Document} (hchild : child ∈ items) :
    (.ok NodeField.children.name, .list items none) ∈ members := by
  rcases hlists with ⟨-, rfl⟩ | hsaid
  · cases hchild
  · have hget : (givenBy members).get? .children = some (.list items none) := by
      unfold saidBy at hsaid
      cases hgiven : (givenBy members).get? .children with
      | none => simp [hgiven, unlessNull] at hsaid
      | some document =>
        cases document <;> simp_all [unlessNull]
    obtain ⟨name, hanswers, hmember⟩ := mem_of_get?_givenBy hget
    rw [← NodeField.ofName?_eq_some_iff, NodeField.ofName?_eq_some_children] at hanswers
    exact hanswers ▸ hmember

private theorem ListsChildren.hasChild {items : List Document}
    (hlists : ListsChildren members items)
    {child : Document} (hchild : child ∈ items) : HasChild (.object members none) child :=
  ⟨members, none, items, none, rfl, hlists.mem hchild, hchild⟩

/-- The children that an intact object lists are intact. -/
theorem ListsChildren.intact {items : List Document} (hlists : ListsChildren members items)
    (hintact : Document.Intact (.object members none)) {child : Document} (hchild : child ∈ items) :
    child.Intact := by
  cases hintact.of_mem (hlists.mem hchild) with
  | list hitems => exact hitems child hchild

end Node

/-- A document is decoded to the tree that it describes, and to none if it describes none. -/
theorem decodeNode_eq_ok_iff_describes {document : Document} (hintact : document.Intact)
    (hbyName : ByName document) (mode : Mode) {tree : NodeTree} :
    decodeNode mode document = .ok tree ↔ Describes document tree := by
  induction hbyName generalizing tree with
  | @intro document hlist hchildren ih =>
    cases document with
    | null | bool | number | string | broken =>
      simp only [decodeNode, reduceCtorEq, false_iff]
      rintro ⟨⟩
    | list items fault => exact absurd rfl (hlist items fault)
    | object members fault =>
      obtain rfl : fault = none := by
        cases hintact
        rfl
      rw [decodeNode_object_eq_ok_iff_saidBy hintact]
      have heach : ∀ items, ListsChildren members items → ∀ trees,
          decodeNodes mode items = .ok trees ↔ List.Forall₂ Describes items trees := by
        intro items hlists trees
        rw [decodeNodes_eq_ok_iff]
        refine forall₂_congr_of_mem fun child hchild described => ?_
        exact ih child (hlists.hasChild hchild) (hlists.intact hintact hchild)
      constructor
      · rintro ⟨hrecognized, honce, spec, items, trees, hspec, hlists, hitems, rfl⟩
        exact .object hrecognized honce hspec hlists ((heach items hlists trees).mp hitems)
      · rintro (⟨hrecognized, honce, hspec, hlists, hitems⟩)
        exact ⟨hrecognized, honce, _, _, _, hspec, hlists, (heach _ hlists _).mpr hitems, rfl⟩

private theorem Json.Document.Intact.exists_tellsSequence_iff {document : Document}
    (hintact : document.Intact) :
    (∃ sequence, TellsSequence document sequence) ↔ SequenceForm document := by
  induction hintact with
  | null | bool | number | string =>
    constructor
    · rintro ⟨_, ⟨_, ⟨⟩, -⟩⟩
    · rintro ⟨⟩
  | @list items hitems ih =>
    constructor
    · rintro ⟨_, ⟨⟨_, ⟨⟩, -⟩⟩ | hsequences⟩
      refine .list fun item hitem => (ih item hitem).mp ?_
      exact exists_image_of_mem hsequences hitem
    · rintro (_ | hforms)
      obtain ⟨sequences, hsequences⟩ :=
        exists_forall₂ fun item hitem => (ih item hitem).mpr (hforms item hitem)
      exact ⟨.nested sequences, .nested hsequences⟩
  | @object members names hnames honce hmembers =>
    obtain ⟨fields, hfields⟩ := (Intact.object names hnames honce hmembers).exists_fields
    exact ⟨fun _ => .object members, fun _ => ⟨_, .steps hfields⟩⟩

section Grammar

variable {members : List (Except Fault String × Document)}

/-- What members say for a setting is what they give for it, unless that is null. -/
theorem saidBy_eq_some_iff {field : NodeField} {document : Document} :
    saidBy members field = some document ↔
      (givenBy members).get? field = some document ∧ document ≠ .null := by
  unfold saidBy
  cases (givenBy members).get? field with
  | none => simp [unlessNull]
  | some given =>
    by_cases hnull : given = .null
    · subst hnull
      simp only [unlessNull, reduceCtorEq, Option.some.injEq, false_iff, not_and, Classical.not_not]
      exact Eq.symm
    · rw [unlessNull_some hnull, Option.some.injEq, iff_self_and]
      rintro rfl
      exact hnull

private theorem Json.Document.Intact.of_said (hintact : Document.Intact (.object members none))
    {field : NodeField} {document : Document} (hsaid : saidBy members field = some document) :
    document.Intact :=
  hintact.of_given document (saidBy_eq_some_iff.mp hsaid).1

private theorem exists_saysFields (hintact : Document.Intact (.object members none))
    {field : NodeField}
    (hform : ∀ said ∈ saidBy members field, ∃ entries, said = .object entries none) :
    ∃ fields, SaysFields (saidBy members field) fields := by
  cases hsaid : saidBy members field with
  | none => exact ⟨[], .inl ⟨rfl, rfl⟩⟩
  | some said =>
    obtain ⟨entries, rfl⟩ := hform said hsaid
    obtain ⟨fields, hfields⟩ := (hintact.of_said hsaid).exists_fields
    exact ⟨fields, .inr ⟨_, rfl, hfields⟩⟩

private theorem exists_text {field : NodeField}
    (hform : ∀ said ∈ saidBy members field, ∃ text, said = .string text) :
    ∃ text : Option String, saidBy members field = text.map .string := by
  cases hsaid : saidBy members field with
  | none => exact ⟨none, rfl⟩
  | some said =>
    obtain ⟨text, rfl⟩ := hform said hsaid
    exact ⟨some text, rfl⟩

private theorem exists_sequence (hintact : Document.Intact (.object members none))
    (hform : ∀ said ∈ saidBy members .sequence, SequenceForm said) :
    ∃ sequence, Option.Rel TellsSequence (saidBy members .sequence) sequence := by
  cases hsaid : saidBy members .sequence with
  | none => exact ⟨none, .none⟩
  | some said =>
    obtain ⟨sequence, htells⟩ :=
      (hintact.of_said hsaid).exists_tellsSequence_iff.mpr (hform said hsaid)
    exact ⟨some sequence, .some htells⟩

private theorem SaysFields.isObject {said : Option Document} {fields : Fields Value}
    (htold : SaysFields said fields) :
    ∀ document ∈ said, ∃ entries, document = .object entries none := by
  rintro document rfl
  rcases htold with ⟨⟨⟩, -⟩ | ⟨_, ⟨⟩, entries, rfl, -⟩
  exact ⟨entries, rfl⟩

/-- Settings of the right form say something, and nothing else does. -/
theorem exists_spec_saidBy_iff (hintact : Document.Intact (.object members none)) :
    (∃ spec : NodeSpec, spec.SaidBy members) ↔
      (∃ text, (givenBy members).get? .id = some (.string text)) ∧
      (∀ field ∈ NodeField.texts, ∀ said ∈ saidBy members field, ∃ text, said = .string text) ∧
      (∀ field ∈ NodeField.arguments, ∀ said ∈ saidBy members field,
        ∃ entries, said = .object entries none) ∧
      ∀ said ∈ saidBy members .sequence, SequenceForm said := by
  constructor
  · rintro ⟨spec, hspec⟩
    have htext : ∀ {field} {text : Option String}, saidBy members field = text.map .string →
        ∀ said ∈ saidBy members field, ∃ text, said = .string text := by
      intro field text hfield said hsaid
      rw [hfield, Option.mem_def, Option.map_eq_some_iff] at hsaid
      obtain ⟨content, -, rfl⟩ := hsaid
      exact ⟨content, rfl⟩
    refine ⟨⟨_, hspec.id⟩, ?_, ?_, ?_⟩
    · simp only [NodeField.texts, List.forall_mem_cons]
      exact ⟨htext hspec.kind, htext hspec.widgetType, htext hspec.attachStrategy,
        htext hspec.childrenAttachStrategy, htext hspec.binding, by simp⟩
    · simp only [NodeField.arguments, List.forall_mem_cons]
      obtain ⟨fields, hhook, -⟩ := hspec.hook
      exact ⟨hspec.constructorArgs.isObject, hspec.attributes.isObject, hspec.attachArgs.isObject,
        hhook.isObject, by simp⟩
    · intro said hsaid
      have hsequence := hspec.sequence
      rw [Option.mem_def] at hsaid
      rw [hsaid] at hsequence
      generalize spec.sequence = told at hsequence
      cases hsequence with
      | some htells => exact (hintact.of_said hsaid).exists_tellsSequence_iff.mp ⟨_, htells⟩
  · rintro ⟨⟨id, hid⟩, htexts, hargs, hsequence⟩
    simp only [NodeField.texts, List.forall_mem_cons] at htexts
    simp only [NodeField.arguments, List.forall_mem_cons] at hargs
    obtain ⟨kind, hkind⟩ := exists_text htexts.1
    obtain ⟨widgetType, hwidgetType⟩ := exists_text htexts.2.1
    obtain ⟨attachStrategy, hattach⟩ := exists_text htexts.2.2.1
    obtain ⟨childrenAttachStrategy, hchildrenAttach⟩ := exists_text htexts.2.2.2.1
    obtain ⟨binding, hbinding⟩ := exists_text htexts.2.2.2.2.1
    obtain ⟨constructorArgs, hconstructor⟩ := exists_saysFields hintact hargs.1
    obtain ⟨attributes, hattributes⟩ := exists_saysFields hintact hargs.2.1
    obtain ⟨attachArgs, hattachArgs⟩ := exists_saysFields hintact hargs.2.2.1
    obtain ⟨fields, hfields⟩ := exists_saysFields hintact hargs.2.2.2.1
    obtain ⟨sequence, htells⟩ := exists_sequence hintact hsequence
    let spec : NodeSpec :=
      { id, kind, widgetType, attachStrategy, childrenAttachStrategy, constructorArgs, attributes,
        attachArgs, sequence, hook := Call.ofMapping fields, binding }
    exact ⟨spec, hid, hkind, hwidgetType, hattach, hchildrenAttach, hconstructor, hattributes,
      hattachArgs, htells, ⟨fields, hfields, rfl⟩, hbinding⟩

end Grammar

/-- The documents of the form of a node are those that describe some tree. -/
theorem exists_describes_iff_nodeForm {document : Document} (hintact : document.Intact)
    (hbyName : ByName document) : (∃ tree, Describes document tree) ↔ NodeForm document := by
  induction hbyName with
  | @intro document _ hchildren ih =>
    constructor
    · rintro ⟨_, @⟨members, items, spec, trees, hrecognized, honce, hspec, hlists, hdescribes⟩⟩
      obtain ⟨hid, htexts, hargs, hsequence⟩ := (exists_spec_saidBy_iff hintact).mp ⟨spec, hspec⟩
      refine .object hrecognized honce hid htexts hargs hsequence hlists fun child hchild => ?_
      have hform := ih child (hlists.hasChild hchild) (hlists.intact hintact hchild)
      exact hform.mp (exists_image_of_mem hdescribes hchild)
    · rintro @⟨members, items, hrecognized, honce, hid, htexts, hargs, hsequence, hlists, hforms⟩
      obtain ⟨spec, hspec⟩ := (exists_spec_saidBy_iff hintact).mpr ⟨hid, htexts, hargs, hsequence⟩
      obtain ⟨trees, htrees⟩ := exists_forall₂ fun child hchild =>
        (ih child (hlists.hasChild hchild) (hlists.intact hintact hchild)).mpr (hforms child hchild)
      exact ⟨_, .object hrecognized honce hspec hlists htrees⟩

end WidgetTree
