import WidgetTree.Proofs.Node.Form

namespace WidgetTree

open Json

/-- The members of the object that says this for the settings of a node. -/
def membersSaying (said : NodeField → Option Document) : List (Except Fault String × Document) :=
  NodeField.all.filterMap fun field => (said field).map fun document => (.ok field.name, document)

/-- The object that says this for the settings of a node. -/
def objectSaying (said : NodeField → Option Document) : Document :=
  .object (membersSaying said) none

private theorem NodeField.mem_all (field : NodeField) : field ∈ all := by
  cases field <;> decide

private theorem NodeField.nodup_all : all.Nodup := by decide

section Said

variable {said : NodeField → Option Document}

private theorem givenBy_membersSaying : givenBy (membersSaying said) =
    NodeField.all.filterMap fun field => (said field).map (field, ·) := by
  rw [givenBy, membersSaying, List.filterMap_filterMap]
  refine List.filterMap_congr fun field _ => ?_
  cases said field with
  | none => rfl
  | some document => simp [NodeField.ofName?_name]

private theorem recognized_membersSaying : Recognized (membersSaying said) := by
  intro member hmember
  obtain ⟨field, -, hmember⟩ := List.mem_filterMap.mp hmember
  obtain ⟨document, -, rfl⟩ := Option.map_eq_some_iff.mp hmember
  exact ⟨field.name, NodeField.mem_acceptedNames_iff.mpr ⟨field, field.ofName?_name⟩, rfl⟩

private theorem distinct_membersSaying : (givenBy (membersSaying said)).Distinct := by
  have hkeys : (givenBy (membersSaying said)).keys =
      NodeField.all.filter fun field => (said field).isSome := by
    rw [givenBy_membersSaying, Table.keys, List.map_filterMap, ← List.filterMap_eq_filter]
    refine List.filterMap_congr fun field _ => ?_
    cases hsaid : said field <;> simp [Option.guard, hsaid]
  rw [Table.Distinct, hkeys]
  exact NodeField.nodup_all.filter _

private theorem mem_givenBy_membersSaying_iff {field : NodeField} {document : Document} :
    (field, document) ∈ givenBy (membersSaying said) ↔ said field = some document := by
  simp only [givenBy_membersSaying, List.mem_filterMap, Option.map_eq_some_iff, Prod.mk.injEq]
  constructor
  · rintro ⟨_, -, _, hsaid, rfl, rfl⟩
    exact hsaid
  · intro hsaid
    exact ⟨field, field.mem_all, document, hsaid, rfl, rfl⟩

private theorem get?_membersSaying (field : NodeField) :
    (givenBy (membersSaying said)).get? field = said field := by
  refine Option.ext fun document => ⟨fun hget => ?_, fun hsaid => ?_⟩
  · exact mem_givenBy_membersSaying_iff.mp (Table.mem_of_get? hget)
  · exact distinct_membersSaying.get?_of_mem (mem_givenBy_membersSaying_iff.mpr hsaid)

/-- An object that says what each setting is read as describes the node with these settings. -/
theorem decodeNode_objectSaying {mode : Mode} (spec : NodeSpec) (children : List NodeTree)
    (hid : said .id = some (.string spec.id))
    (hread : ∀ field, ReadFrom (field.read mode) (({} : NodeDraft).part field) (said field)
      (NodeDraft.part { spec, children } field)) :
    decodeNode mode (objectSaying said) = .ok (.settled spec children) := by
  let members := membersSaying said
  let draft : NodeDraft := ⟨(givenBy members).keys.reverse, spec, children⟩
  have hdraft : ∀ field, ReadFrom (field.read mode) (({} : NodeDraft).part field)
      ((givenBy members).get? field) (draft.part field) := by
    intro field
    rw [get?_membersSaying]
    cases field <;> exact hread _
  have hfilled : NodeDraft.Filled mode members {} draft :=
    NodeDraft.filled_iff_readFrom.mpr
      ⟨recognized_membersSaying, distinct_membersSaying, rfl, hdraft⟩
  have hkey : .id ∈ (givenBy members).keys :=
    Table.mem_keys_of_get? ((get?_membersSaying .id).trans hid)
  exact decodeNode_object_eq_ok_iff.mpr ⟨draft, hfilled, hkey, rfl⟩

end Said

end WidgetTree
