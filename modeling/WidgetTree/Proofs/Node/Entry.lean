import WidgetTree.Proofs.Node.Declared

namespace WidgetTree

open Json

section Places

variable {mode : Mode} {fields : List NodeField} {items : List Document}

/-- Each member of an object is read, at some point, as the setting that it is named as. -/
theorem exists_decodeField_of_mem {members : List (Except Fault String × Document)}
    {draft final : NodeDraft} (hdecode : decodeMembers mode members draft = .ok final)
    {name : String} {document : Document} (hmember : (.ok name, document) ∈ members) :
    ∃ field before after, NodeField.ofName? name = some field ∧
      decodeField mode field document before = .ok after := by
  induction members generalizing draft with
  | nil => simp at hmember
  | cons member rest ih =>
    obtain ⟨named, value⟩ := member
    cases named with
    | error fault => cases hdecode
    | ok called =>
      obtain ⟨field, next, hfield, hnext, hfinal⟩ := decodeMembers_cons_ok_iff.mp hdecode
      obtain hhere | hlater := List.mem_cons.mp hmember
      · obtain ⟨⟨⟩, rfl⟩ := Prod.mk.inj hhere
        exact ⟨field, draft, next, (NodeDraft.accept_eq_ok_iff.mp hfield).1, hnext⟩
      · exact ih hfinal hlater

/-- In either form, children are told by the member that is named for them. -/
theorem TellsChild.exists_mem_nodeMembers {document child : Document}
    (hchild : TellsChild document child) :
    ∃ nodes ending, (.ok NodeField.children.name, .list nodes ending) ∈ nodeMembers document ∧
      child ∈ nodes := by
  cases hchild with
  | named hchild =>
    obtain ⟨members, fault, nodes, ending, rfl, hmember, hchild⟩ := hchild
    exact ⟨nodes, ending, hmember, hchild⟩
  | placed hplace hchild => exact ⟨_, _, List.mem_map.mpr ⟨_, hplace, rfl⟩, hchild⟩

/-- A document that describes a node has every child in it describe one. -/
theorem TellsChild.decodes {document child : Document} (hchild : TellsChild document child)
    {tree : NodeTree} (hdecode : decodeNode mode document = .ok tree) :
    ∃ subtree, decodeNode mode child = .ok subtree := by
  obtain ⟨nodes, ending, hmember, hmem⟩ := hchild.exists_mem_nodeMembers
  obtain ⟨-, draft, hdraft, -⟩ := decodeNode_object_ok_iff.mp (decodeNode_nodeMembers hdecode)
  obtain ⟨field, before, after, hfield, hafter⟩ := exists_decodeField_of_mem hdraft hmember
  rw [NodeField.ofName?_eq_some_children.mpr rfl] at hfield
  obtain rfl := Option.some.inj hfield
  obtain ⟨-, trees, htrees, -⟩ := decodeField_list_eq_ok_iff.mp hafter
  exact exists_image_of_mem (decodeNodes_eq_ok_iff.mp htrees) hmem

/-- However deep an entry lies, the whole document is accepted only if the entry is. -/
theorem decodes_of_transGen {document entry : Document}
    (hbelow : Relation.TransGen TellsChild document entry) {tree : NodeTree}
    (hdecode : decodeNode mode document = .ok tree) :
    ∃ subtree, decodeNode mode entry = .ok subtree := by
  induction hbelow using Relation.TransGen.head_induction_on generalizing tree with
  | single hchild => exact hchild.decodes hdecode
  | head hchild _ ih =>
    obtain ⟨subtree, hsubtree⟩ := hchild.decodes hdecode
    exact ih hsubtree

private theorem length_le_of_decodeFields {draft final : NodeDraft}
    (hdecode : decodeFields mode fields items none draft = .ok (final, [])) :
    items.length ≤ fields.length := by
  induction fields generalizing items draft with
  | nil =>
    simp only [decodeFields, Except.ok.injEq, Prod.mk.injEq] at hdecode
    simp [hdecode.2]
  | cons field fields ih =>
    cases items with
    | nil => simp
    | cons document items =>
      obtain ⟨next, -, hrest⟩ := decodeFields_cons_ok_iff.mp hdecode
      have hlength := ih hrest
      simp only [List.length_cons]
      omega

/-- Members that are named as settings in turn are read as items in their places. A list may end
before any setting but the id. -/
theorem decodeFields_of_decodeMembers {draft final : NodeDraft} (hid : .id ∉ fields)
    (hlength : items.length ≤ fields.length)
    (hdecode : decodeMembers mode ((fields.zip items).map fun place => (.ok place.1.name, place.2))
      draft = .ok final) :
    decodeFields mode fields items none draft = .ok (final, []) := by
  induction fields generalizing items draft with
  | nil =>
    obtain rfl := List.eq_nil_of_length_eq_zero (Nat.le_zero.mp hlength)
    obtain rfl := Except.ok.inj hdecode
    rfl
  | cons field fields ih =>
    obtain ⟨hfirst, hid⟩ := not_or.mp (mt List.mem_cons.mpr hid)
    cases items with
    | nil =>
      obtain rfl := Except.ok.inj hdecode
      simp [decodeFields, closed, liftFault, Ne.symm hfirst, bind, Except.bind, pure, Except.pure]
    | cons document items =>
      rw [List.zip_cons_cons, List.map_cons] at hdecode
      obtain ⟨named, next, hnamed, hnext, hrest⟩ := decodeMembers_cons_ok_iff.mp hdecode
      have hfield := (NodeDraft.accept_eq_ok_iff.mp hnamed).1
      rw [NodeField.ofName?_name] at hfield
      obtain rfl := Option.some.inj hfield
      have hrestLength := Nat.le_of_succ_le_succ hlength
      exact decodeFields_cons_ok_iff.mpr ⟨next, hnext, ih hid hrestLength hrest⟩

/-- A list describes a node just if it is no longer than the list of settings and the object that
gives each item under the name of the setting in its place describes one; it is the same node. -/
theorem decodeNode_list_ok_iff_nodeMembers {tree : NodeTree} :
    decodeNode mode (.list items none) = .ok tree ↔ items.length ≤ NodeField.all.length ∧
      decodeNode mode (.object (nodeMembers (.list items none)) none) = .ok tree := by
  constructor
  · intro hdecode
    obtain ⟨-, draft, hdraft, -⟩ := decodeNode_list_ok_iff.mp hdecode
    exact ⟨length_le_of_decodeFields hdraft, decodeNode_nodeMembers hdecode⟩
  · rintro ⟨hlength, hdecode⟩
    obtain ⟨-, draft, hdraft, hfinish⟩ := decodeNode_object_ok_iff.mp hdecode
    refine decodeNode_list_ok_iff.mpr ⟨rfl, draft, ?_, hfinish⟩
    -- the id is the first setting and may not be missing
    cases items with
    | nil =>
      obtain rfl := Except.ok.inj hdraft
      cases hfinish
    | cons document items =>
      obtain ⟨named, next, hnamed, hnext, hrest⟩ := decodeMembers_cons_ok_iff.mp hdraft
      have hfield := (NodeDraft.accept_eq_ok_iff.mp hnamed).1
      rw [NodeField.ofName?_name] at hfield
      obtain rfl := Option.some.inj hfield
      have hrestLength := Nat.le_of_succ_le_succ hlength
      exact decodeFields_cons_ok_iff.mpr
        ⟨next, hnext, decodeFields_of_decodeMembers (by decide) hrestLength hrest⟩

end Places

namespace NodeTree

/-- Any entry that describes a node may be the only child of a node with nothing but an id. -/
theorem ofDocument?_single_child {entry : Document} {subtree : NodeTree}
    (hentry : decodeNode .whole entry = .ok subtree) :
    ∃ tree, ofDocument? (.object [(.ok NodeField.id.name, .string "root"),
      (.ok NodeField.children.name, .list [entry] none)] none) = .ok tree := by
  have hchildren : decodeNodes .whole [entry] = .ok [subtree] :=
    decodeNodes_eq_ok_iff.mpr (.cons hentry .nil)
  let draft : NodeDraft := ⟨[.children, .id], { id := "root" }, [subtree]⟩
  refine ⟨_, ofDocument?_eq_ok_iff.mpr (decodeNode_object_ok_iff.mpr ⟨rfl, draft, ?_, rfl⟩)⟩
  refine decodeMembers_cons_ok_iff.mpr ⟨.id, ⟨[.id], { id := "root" }, []⟩, rfl, rfl, ?_⟩
  refine decodeMembers_cons_ok_iff.mpr ⟨.children, draft, rfl, ?_, rfl⟩
  exact decodeField_list_eq_ok_iff.mpr ⟨rfl, [subtree], hchildren, rfl⟩

/-- An entry that is no object makes every document in which it stands among some children, at any
depth, be refused as malformed; unless it is a list that describes a node by place, and only
then. -/
theorem malformed_above_iff_not_by_place {entry : Document}
    (hentry : ∀ members fault, entry ≠ .object members fault) :
    (∀ document, Relation.TransGen TellsChild document entry →
        ∃ problem, ofDocument? document = .error (.malformed problem)) ↔
      ¬ ∃ items tree, entry = .list items none ∧ items.length ≤ NodeField.all.length ∧
        ofDocument? (.object (nodeMembers entry) none) = .ok tree := by
  constructor
  · rintro hrefused ⟨items, tree, rfl, hlength, hnamed⟩
    have hdecode := decodeNode_list_ok_iff_nodeMembers.mpr
      ⟨hlength, ofDocument?_eq_ok_iff.mp hnamed⟩
    obtain ⟨whole, hwhole⟩ := ofDocument?_single_child hdecode
    have hchild : TellsChild (.object [(.ok NodeField.id.name, .string "root"),
        (.ok NodeField.children.name, .list [.list items none] none)] none) (.list items none) :=
      .named ⟨_, _, [.list items none], none, rfl, by simp, List.mem_singleton_self _⟩
    obtain ⟨problem, hproblem⟩ := hrefused _ (.single hchild)
    rw [hwhole] at hproblem
    cases hproblem
  · intro hplace document hbelow
    cases hdecode : decodeNode .whole document with
    | error problem => exact ⟨problem, by rw [ofDocument?, hdecode]; rfl⟩
    | ok tree =>
      obtain ⟨subtree, hsubtree⟩ := decodes_of_transGen hbelow hdecode
      refine absurd ?_ hplace
      cases entry with
      | null | bool | number | string | broken => cases hsubtree
      | object members fault => exact absurd rfl (hentry members fault)
      | list items fault =>
        obtain ⟨rfl, -⟩ := decodeNode_list_ok_iff.mp hsubtree
        obtain ⟨hlength, hnamed⟩ := decodeNode_list_ok_iff_nodeMembers.mp hsubtree
        exact ⟨items, subtree, rfl, hlength, ofDocument?_eq_ok_iff.mpr hnamed⟩

/-- A node with a text in the place of a grandchild. -/
def labelledGrandchild : Document :=
  .object [(.ok "id", .string "root"), (.ok "children", .list [.object [(.ok "id", .string "a"),
    (.ok "children", .list [.string "label"] none)] none] none)] none

/-- A document that holds a text among some children is refused, however deep the text lies, as here
among the children of a child. -/
theorem malformed_above_label :
    (∀ members fault, Document.string "label" ≠ .object members fault) ∧
    (∀ document, Relation.TransGen TellsChild document (.string "label") →
      ∃ problem, ofDocument? document = .error (.malformed problem)) ∧
    Relation.TransGen TellsChild labelledGrandchild (.string "label") ∧
    ∃ problem, ofDocument? labelledGrandchild = .error (.malformed problem) := by
  have hobject : ∀ members fault, Document.string "label" ≠ .object members fault := by
    intro members fault h
    cases h
  have hrefused := (malformed_above_iff_not_by_place hobject).mpr <| by
    rintro ⟨items, tree, h, -⟩
    cases h
  have hchild : TellsChild labelledGrandchild
      (.object [(.ok "id", .string "a"), (.ok "children", .list [.string "label"] none)] none) :=
    .named ⟨_, _, _, none, rfl, .tail _ (.head _), .head _⟩
  have hgrandchild : TellsChild
      (.object [(.ok "id", .string "a"), (.ok "children", .list [.string "label"] none)] none)
      (.string "label") :=
    .named ⟨_, _, _, none, rfl, .tail _ (.head _), .head _⟩
  have hbelow := (Relation.TransGen.single hchild).tail hgrandchild
  exact ⟨hobject, hrefused, hbelow, hrefused labelledGrandchild hbelow⟩

/-- A node with one child, which is told as a list: its id in the first place. -/
def listedChild : Document :=
  .object [(.ok "id", .string "root"), (.ok "children", .list [.list [.string "a"] none] none)] none

/-- The list is taken for the child with this id, though it is no object. -/
theorem listedChild_accepted :
    Relation.TransGen TellsChild listedChild (.list [.string "a"] none) ∧
    (∀ members fault, Document.list [.string "a"] none ≠ .object members fault) ∧
    (ofDocument? listedChild).toOption.map (fun tree => tree.children.map (·.spec.id)) =
      some ["a"] := by
  have hchild : TellsChild listedChild (.list [.string "a"] none) :=
    .named ⟨_, _, [.list [.string "a"] none], none, rfl, .tail _ (.head _), .head _⟩
  refine ⟨.single hchild, ?_, by decide +kernel⟩
  intro members fault h
  cases h

end NodeTree

end WidgetTree
