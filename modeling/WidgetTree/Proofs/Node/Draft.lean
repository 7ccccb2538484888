import WidgetTree.Node.Decode
import WidgetTree.Proofs.Table

namespace WidgetTree

open Json

section Success

variable {ε α β : Type} {first : Except ε α} {result : β}

/-- Two results in turn are a success if both are. -/
theorem except_bind_eq_ok_iff {next : α → Except ε β} :
    (first >>= next) = .ok result ↔ ∃ value, first = .ok value ∧ next value = .ok result := by
  cases first <;> simp [bind, Except.bind]

/-- A changed result is a success if the result is. -/
theorem except_map_eq_ok_iff {change : α → β} :
    first.map change = .ok result ↔ ∃ value, first = .ok value ∧ change value = result := by
  cases first <;> simp [Except.map]

/-- A fault is a problem, and nothing else is. -/
theorem liftFault_eq_ok_iff {outcome : Except Fault α} {value : α} :
    liftFault outcome = .ok value ↔ outcome = .ok value := by
  cases outcome <;> simp [liftFault]

end Success

namespace NodeField

/-- What a node holds for a setting. Reading a member changes the part of its setting and no other.
-/
@[reducible] def Part : NodeField → Type
  | id => String
  | kind | widgetType | attachStrategy | childrenAttachStrategy | binding => Option String
  | constructorArgs | attributes | attachArgs => Fields Value
  | sequence => Option ConfigSequence
  | hook => List Call
  | children => List NodeTree

/-- The nodes that the value of a member describes. Null stands for none. -/
def readChildren (mode : Mode) : Document → Except Problem (List NodeTree)
  | .null => .ok []
  | .list items fault => do
    let trees ← decodeNodes mode items
    liftFault (closed fault)
    return trees
  | other => .error (other.unexpected "a sequence")

/-- What the value of a member says for a setting. -/
def read (mode : Mode) : (field : NodeField) → Document → Except Problem field.Part
  | id, document => document.text?
  | kind, document | widgetType, document | attachStrategy, document
  | childrenAttachStrategy, document | binding, document => document.optionalText?
  | constructorArgs, document | attributes, document | attachArgs, document => document.fields?
  | sequence, document => decodeOptionalSequence document
  | hook, document => document.fields?.map Call.ofMapping
  | children, document => readChildren mode document

/-- A name finds the setting that answers to it. -/
theorem ofName?_eq_some_iff {name : String} {field : NodeField} :
    ofName? name = some field ↔ field.answersTo name = true := by
  constructor
  · exact List.find?_some
  · intro hanswers
    simp only [answersTo, Bool.or_eq_true, beq_iff_eq] at hanswers
    rcases hanswers with rfl | holder
    · cases field <;> decide +kernel
    · cases field <;> simp only [olderName?, Option.some.injEq, reduceCtorEq] at holder <;>
        subst holder <;> decide +kernel

/-- Every setting answers to its name. -/
theorem ofName?_name (field : NodeField) : ofName? field.name = some field := by
  rw [ofName?_eq_some_iff]
  simp [answersTo]

/-- The children have no older name. -/
theorem ofName?_eq_some_children {name : String} :
    ofName? name = some children ↔ name = children.name := by
  rw [ofName?_eq_some_iff]
  simp [answersTo, olderName?, eq_comm (a := name)]

private theorem mem_bothNames_iff {field : NodeField} {name : String} :
    name ∈ field.bothNames ↔ field.answersTo name = true := by
  simp only [bothNames, answersTo, Bool.or_eq_true, beq_iff_eq]
  cases field.olderName? with
  | none => simp [eq_comm]
  | some older =>
    by_cases hless : older < field.name
    · simp [hless, eq_comm, or_comm]
    · simp [hless, eq_comm]

/-- The names that members may have are those that give some setting. -/
theorem mem_acceptedNames_iff {name : String} :
    name ∈ acceptedNames ↔ ∃ field, ofName? name = some field := by
  simp only [acceptedNames, List.mem_flatMap, mem_bothNames_iff, ofName?_eq_some_iff]
  constructor
  · rintro ⟨field, -, hanswers⟩
    exact ⟨field, hanswers⟩
  · rintro ⟨field, hanswers⟩
    exact ⟨field, by cases field <;> decide, hanswers⟩

end NodeField

namespace NodeDraft

/-- The part of a draft that holds a setting. -/
def part (draft : NodeDraft) : (field : NodeField) → field.Part
  | .id => draft.spec.id
  | .kind => draft.spec.kind
  | .widgetType => draft.spec.widgetType
  | .attachStrategy => draft.spec.attachStrategy
  | .childrenAttachStrategy => draft.spec.childrenAttachStrategy
  | .constructorArgs => draft.spec.constructorArgs
  | .attributes => draft.spec.attributes
  | .attachArgs => draft.spec.attachArgs
  | .sequence => draft.spec.sequence
  | .hook => draft.spec.hook
  | .binding => draft.spec.binding
  | .children => draft.children

/-- The draft once a setting was given. -/
def give (draft : NodeDraft) (field : NodeField) (part : field.Part) : NodeDraft :=
  match field, part with
  | .id, id => ⟨.id :: draft.given, { draft.spec with id }, draft.children⟩
  | .kind, kind => ⟨.kind :: draft.given, { draft.spec with kind }, draft.children⟩
  | .widgetType, widgetType =>
    ⟨.widgetType :: draft.given, { draft.spec with widgetType }, draft.children⟩
  | .attachStrategy, attachStrategy =>
    ⟨.attachStrategy :: draft.given, { draft.spec with attachStrategy }, draft.children⟩
  | .childrenAttachStrategy, childrenAttachStrategy =>
    ⟨.childrenAttachStrategy :: draft.given, { draft.spec with childrenAttachStrategy },
      draft.children⟩
  | .constructorArgs, constructorArgs =>
    ⟨.constructorArgs :: draft.given, { draft.spec with constructorArgs }, draft.children⟩
  | .attributes, attributes =>
    ⟨.attributes :: draft.given, { draft.spec with attributes }, draft.children⟩
  | .attachArgs, attachArgs =>
    ⟨.attachArgs :: draft.given, { draft.spec with attachArgs }, draft.children⟩
  | .sequence, sequence => ⟨.sequence :: draft.given, { draft.spec with sequence }, draft.children⟩
  | .hook, hook => ⟨.hook :: draft.given, { draft.spec with hook }, draft.children⟩
  | .binding, binding => ⟨.binding :: draft.given, { draft.spec with binding }, draft.children⟩
  | .children, children => ⟨.children :: draft.given, draft.spec, children⟩

/-- What is given to a draft counts as given. -/
@[simp] theorem given_give (draft : NodeDraft) (field : NodeField) (part : field.Part) :
    (draft.give field part).given = field :: draft.given := by
  cases field <;> rfl

/-- What is given to a draft for a setting is what it holds for it. -/
@[simp] theorem part_give_self (draft : NodeDraft) (field : NodeField) (part : field.Part) :
    (draft.give field part).part field = part := by
  cases field <;> rfl

private theorem part_give_of_ne (draft : NodeDraft) {field other : NodeField} (hne : other ≠ field)
    (part : field.Part) : (draft.give field part).part other = draft.part other := by
  cases field <;> cases other <;> first | rfl | exact absurd rfl hne

/-- A member without children leaves the children as they are, which is none while none were
given. -/
theorem decodeField_eq (mode : Mode) (field : NodeField) (document : Document) {draft : NodeDraft}
    (hnone : field = .children → draft.children = []) :
    decodeField mode field document draft = (field.read mode document).map (draft.give field) := by
  cases field with
  | children =>
    have hempty := hnone rfl
    cases document with
    | null => simp [decodeField, NodeField.read, NodeField.readChildren, Except.map, give, hempty]
    | list items fault =>
      simp only [decodeField, if_true, NodeField.read, NodeField.readChildren]
      cases decodeNodes mode items with
      | error problem => rfl
      | ok trees => cases fault <;> rfl
    | bool | number | string | object | broken => rfl
  | id =>
    rw [decodeField.eq_def]
    simp only [decodeSetting, NodeField.read, reduceCtorEq, if_false]
    cases document.text? <;> rfl
  | kind | widgetType | attachStrategy | childrenAttachStrategy | binding =>
    rw [decodeField.eq_def]
    simp only [decodeSetting, NodeField.read, reduceCtorEq, if_false]
    cases document.optionalText? <;> rfl
  | constructorArgs | attributes | attachArgs | hook =>
    rw [decodeField.eq_def]
    simp only [decodeSetting, NodeField.read, reduceCtorEq, if_false]
    cases document.fields? <;> rfl
  | sequence =>
    rw [decodeField.eq_def]
    simp only [decodeSetting, NodeField.read, reduceCtorEq, if_false]
    cases decodeOptionalSequence document <;> rfl

end NodeDraft

/-- The settings that an object's members give, under whichever of their names, in the order of the
members. -/
def givenBy (members : List (Except Fault String × Document)) : Table NodeField Document :=
  members.filterMap fun member =>
    match member.1 with
    | .ok name => (NodeField.ofName? name).map (·, member.2)
    | .error _ => none

/-- Every member is named, as some setting is. -/
def Recognized (members : List (Except Fault String × Document)) : Prop :=
  ∀ member ∈ members, ∃ name ∈ NodeField.acceptedNames, member.1 = .ok name

@[simp] theorem givenBy_nil : givenBy [] = [] := rfl

/-- The settings that members give are that of the first and then those of the others. -/
theorem givenBy_cons_ok {name : String} {field : NodeField}
    (hfield : NodeField.ofName? name = some field) (document : Document)
    (rest : List (Except Fault String × Document)) :
    givenBy ((.ok name, document) :: rest) = (field, document) :: givenBy rest := by
  simp [givenBy, hfield]

/-- Members are recognized one by one. -/
theorem recognized_cons_iff {member : Except Fault String × Document}
    {rest : List (Except Fault String × Document)} :
    Recognized (member :: rest) ↔
      (∃ name field, member.1 = .ok name ∧ NodeField.ofName? name = some field) ∧
        Recognized rest := by
  simp only [Recognized, List.forall_mem_cons, NodeField.mem_acceptedNames_iff]
  constructor
  · rintro ⟨⟨name, ⟨field, hfield⟩, hname⟩, hrest⟩
    exact ⟨⟨name, field, hname, hfield⟩, hrest⟩
  · rintro ⟨⟨name, field, hname, hfield⟩, hrest⟩
    exact ⟨⟨name, ⟨field, hfield⟩, hname⟩, hrest⟩

namespace NodeDraft

/-- A name is accepted if it finds a setting that was not given yet. -/
theorem accept_eq_ok_iff {draft : NodeDraft} {name : String} {field : NodeField} :
    draft.accept name = .ok field ↔ NodeField.ofName? name = some field ∧ field ∉ draft.given := by
  unfold accept
  cases NodeField.ofName? name with
  | none => simp
  | some known =>
    by_cases hgiven : known ∈ draft.given
    · simp only [hgiven, if_true, reduceCtorEq, Option.some.injEq, false_iff, not_and,
        Classical.not_not]
      rintro rfl
      exact hgiven
    · simp only [hgiven, if_false, Except.ok.injEq, Option.some.injEq, iff_self_and]
      rintro rfl
      exact hgiven

/-- The next member is that of a setting not given before, and its value makes sense for it. -/
theorem decodeMembers_cons_eq_ok_iff {mode : Mode} {member : Except Fault String × Document}
    {rest : List (Except Fault String × Document)} {draft final : NodeDraft}
    (hnone : .children ∉ draft.given → draft.children = []) :
    decodeMembers mode (member :: rest) draft = .ok final ↔
      ∃ name field part, member.1 = .ok name ∧ NodeField.ofName? name = some field ∧
        field ∉ draft.given ∧ field.read mode member.2 = .ok part ∧
        decodeMembers mode rest (draft.give field part) = .ok final := by
  obtain ⟨named, document⟩ := member
  have hchildren : ∀ field, field ∉ draft.given → field = .children → draft.children = [] := by
    rintro field hfresh rfl
    exact hnone hfresh
  simp only [decodeMembers, except_bind_eq_ok_iff, liftFault_eq_ok_iff, accept_eq_ok_iff]
  constructor
  · rintro ⟨name, rfl, field, ⟨hfield, hfresh⟩, next, hnext, hrun⟩
    rw [decodeField_eq mode field document (hchildren field hfresh), except_map_eq_ok_iff] at hnext
    obtain ⟨part, hread, rfl⟩ := hnext
    exact ⟨name, field, part, rfl, hfield, hfresh, hread, hrun⟩
  · rintro ⟨name, field, part, rfl, hfield, hfresh, hread, hrun⟩
    refine ⟨name, rfl, field, ⟨hfield, hfresh⟩, draft.give field part, ?_, hrun⟩
    rw [decodeField_eq mode field document (hchildren field hfresh), except_map_eq_ok_iff]
    exact ⟨part, hread, rfl⟩

/-- Drafts with the same settings given, and the same parts, are the same. -/
theorem ext_of_part {draft other : NodeDraft} (hgiven : draft.given = other.given)
    (hpart : ∀ field, draft.part field = other.part field) : draft = other := by
  obtain ⟨given, spec, children⟩ := draft
  obtain ⟨otherGiven, otherSpec, otherChildren⟩ := other
  have hspec : spec = otherSpec := by
    cases spec
    cases otherSpec
    simp only [NodeSpec.mk.injEq]
    exact ⟨hpart .id, hpart .kind, hpart .widgetType, hpart .attachStrategy,
      hpart .childrenAttachStrategy, hpart .constructorArgs, hpart .attributes, hpart .attachArgs,
      hpart .sequence, hpart .hook, hpart .binding⟩
  have hchildren : children = otherChildren := hpart .children
  simp_all

/-- What reading an object's members makes of a draft: every member gives some setting, no setting
twice or anew, and the draft then holds what was given. -/
structure Filled (mode : Mode) (members : List (Except Fault String × Document))
    (draft final : NodeDraft) : Prop where
  recognized : Recognized members
  once : (givenBy members).Distinct
  fresh : ∀ field ∈ (givenBy members).keys, field ∉ draft.given
  given : final.given = (givenBy members).keys.reverse ++ draft.given
  told : ∀ field document, (givenBy members).get? field = some document →
    field.read mode document = .ok (final.part field)
  kept : ∀ field, field ∉ (givenBy members).keys → final.part field = draft.part field

private theorem filled_nil_iff {mode : Mode} {draft final : NodeDraft} :
    Filled mode [] draft final ↔ draft = final := by
  constructor
  · intro hfilled
    have hgiven : draft.given = final.given := by simpa using hfilled.given.symm
    exact ext_of_part hgiven fun field => (hfilled.kept field (by simp)).symm
  · rintro rfl
    exact ⟨by simp [Recognized], List.nodup_nil, by simp, by simp, by simp [Table.get?], by simp⟩

private theorem filled_cons_iff {mode : Mode} {name : String} {field : NodeField}
    (hfield : NodeField.ofName? name = some field) {document : Document}
    {rest : List (Except Fault String × Document)} {draft final : NodeDraft} :
    Filled mode ((.ok name, document) :: rest) draft final ↔
      field ∉ draft.given ∧ field.read mode document = .ok (final.part field) ∧
        Filled mode rest (draft.give field (final.part field)) final := by
  have hgivenBy := givenBy_cons_ok hfield document rest
  constructor
  · intro hfilled
    have honce : field ∉ (givenBy rest).keys ∧ (givenBy rest).Distinct := by
      have honce := hfilled.once
      rwa [hgivenBy, Table.Distinct, Table.keys_cons, List.nodup_cons] at honce
    refine ⟨hfilled.fresh field (by simp [hgivenBy]),
      hfilled.told field document (by simp [hgivenBy, Table.get?]), ?_⟩
    refine ⟨(recognized_cons_iff.mp hfilled.recognized).2, honce.2, ?_, ?_, ?_, ?_⟩
    · intro other hother
      have hfresh := hfilled.fresh other (by simp [hgivenBy, hother])
      have hne : other ≠ field := by
        rintro rfl
        exact honce.1 hother
      simp [hne, hfresh]
    · simpa [hgivenBy] using hfilled.given
    · intro other value hvalue
      have hne : field ≠ other := by
        rintro rfl
        exact honce.1 (Table.mem_keys_of_get? hvalue)
      exact hfilled.told other value (by simpa [hgivenBy, Table.get?, hne] using hvalue)
    · intro other hother
      by_cases heq : other = field
      · subst heq
        rw [part_give_self]
      · rw [part_give_of_ne draft heq]
        exact hfilled.kept other (by simp [hgivenBy, heq, hother])
  · rintro ⟨hfresh, hread, hfilled⟩
    have hnew : field ∉ (givenBy rest).keys := by
      intro hmem
      simpa using hfilled.fresh field hmem
    have hrecognized : Recognized ((.ok name, document) :: rest) :=
      recognized_cons_iff.mpr ⟨⟨name, field, rfl, hfield⟩, hfilled.recognized⟩
    refine ⟨hrecognized, ?_, ?_, ?_, ?_, ?_⟩
    · rw [hgivenBy, Table.Distinct, Table.keys_cons, List.nodup_cons]
      exact ⟨hnew, hfilled.once⟩
    · intro other hother
      rw [hgivenBy, Table.keys_cons, List.mem_cons] at hother
      rcases hother with rfl | hother
      · exact hfresh
      · have hlater := hfilled.fresh other hother
        simp only [given_give, List.mem_cons, not_or] at hlater
        exact hlater.2
    · simpa [hgivenBy] using hfilled.given
    · intro other value hvalue
      by_cases heq : field = other
      · subst heq
        obtain rfl : document = value := by simpa [hgivenBy, Table.get?] using hvalue
        exact hread
      · exact hfilled.told other value (by simpa [hgivenBy, Table.get?, heq] using hvalue)
    · intro other hother
      simp only [hgivenBy, Table.keys_cons, List.mem_cons, not_or] at hother
      rw [hfilled.kept other hother.2, part_give_of_ne draft hother.1]

private theorem decodeMembers_eq_ok_iff {mode : Mode}
    {members : List (Except Fault String × Document)}
    {draft final : NodeDraft} (hnone : .children ∉ draft.given → draft.children = []) :
    decodeMembers mode members draft = .ok final ↔ Filled mode members draft final := by
  induction members generalizing draft with
  | nil => rw [filled_nil_iff, decodeMembers, Except.ok.injEq]
  | cons member rest ih =>
    have hrest : ∀ field part, field ∉ draft.given →
        .children ∉ (draft.give field part).given → (draft.give field part).children = [] := by
      intro field part hfresh hmissing
      simp only [given_give, List.mem_cons, not_or] at hmissing
      have hkept := part_give_of_ne draft hmissing.1 part
      exact hkept.trans (hnone hmissing.2)
    rw [decodeMembers_cons_eq_ok_iff hnone]
    constructor
    · rintro ⟨name, field, part, hname, hfield, hfresh, hread, hrun⟩
      rw [ih (hrest field part hfresh)] at hrun
      have hpart : final.part field = part := by
        have hnew : field ∉ (givenBy rest).keys := by
          intro hmem
          simpa using hrun.fresh field hmem
        rw [hrun.kept field hnew, part_give_self]
      subst hpart
      obtain ⟨named, document⟩ := member
      obtain rfl : named = .ok name := hname
      exact (filled_cons_iff hfield).mpr ⟨hfresh, hread, hrun⟩
    · intro hfilled
      obtain ⟨name, field, hname, hfield⟩ := (recognized_cons_iff.mp hfilled.recognized).1
      obtain ⟨named, document⟩ := member
      obtain rfl : named = .ok name := hname
      obtain ⟨hfresh, hread, hfilled⟩ := (filled_cons_iff hfield).mp hfilled
      exact ⟨name, field, final.part field, rfl, hfield, hfresh, hread,
        (ih (hrest field _ hfresh)).mpr hfilled⟩

end NodeDraft

/-- An object describes a node exactly if its members fill an empty draft, the id included. -/
theorem decodeNode_object_eq_ok_iff {mode : Mode}
    {members : List (Except Fault String × Document)} {tree : NodeTree} :
    decodeNode mode (.object members none) = .ok tree ↔
      ∃ draft, NodeDraft.Filled mode members {} draft ∧ .id ∈ (givenBy members).keys ∧
        tree = .settled draft.spec draft.children := by
  have hempty : .children ∉ ({} : NodeDraft).given → ({} : NodeDraft).children = [] := fun _ => rfl
  simp only [decodeNode, except_bind_eq_ok_iff, liftFault_eq_ok_iff, closed,
    NodeDraft.decodeMembers_eq_ok_iff hempty, NodeDraft.finish]
  constructor
  · rintro ⟨draft, hfilled, -, -, hfinish⟩
    split at hfinish
    · next hid =>
      refine ⟨draft, hfilled, ?_, (Except.ok.inj hfinish).symm⟩
      simpa [hfilled.given] using hid
    · cases hfinish
  · rintro ⟨draft, hfilled, hid, rfl⟩
    have hgiven : .id ∈ draft.given := by simpa [hfilled.given] using hid
    exact ⟨draft, hfilled, (), trivial, by rw [if_pos hgiven]⟩

end WidgetTree
