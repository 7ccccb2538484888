import WidgetTree.Proofs.Markup.Recipe
import WidgetTree.Proofs.Node.Retell

namespace WidgetTree.Markup

open Json

private theorem Attribute.exists_text_of_about {a : Attribute} {step : Option RecipeStep}
    (hstep : a.step = .ok step) {field : NodeField} (hfield : a.field? = some field)
    (htexts : field ∈ NodeField.texts) : ∃ text, a.value.text? = some text := by
  obtain ⟨other, hother, habout⟩ := stepAbout_of_step hstep
  obtain rfl := Option.some.inj (hfield.symm.trans hother)
  cases habout with
  | kind htext | attachStrategy htext | childrenAttachStrategy htext | binding htext =>
    exact ⟨_, htext⟩
  | id | constructorArgs | attributes | attachArgs => simp [NodeField.texts] at htexts

namespace Element

open Attribute

section Reading

variable {id tag : String} {attributes : List Attribute} {documents : List Document}

private theorem said_id (hid : Element.id tag attributes = .ok id) :
    said tag attributes documents .id = some (.string id) := by
  rw [id_eq_about] at hid
  cases hfirst : (about .id attributes).head? with
  | none => simp [hfirst] at hid
  | some a =>
    rw [hfirst] at hid
    have hdocument := AttributeValue.document_of_text? (text_eq_ok_iff.mp hid)
    simp [said, hfirst, hdocument]

private theorem readFrom_lastText? {field : NodeField}
    (htexts : ∀ a ∈ about field attributes, ∃ text, a.value.text? = some text) :
    ReadFrom Document.optionalText? none
      ((about field attributes).getLast?.map (·.value.document)) (lastText? field attributes) := by
  unfold lastText?
  cases hlast : (about field attributes).getLast? with
  | none => rfl
  | some a =>
    obtain ⟨text, htext⟩ := htexts a (List.mem_of_getLast? hlast)
    simp [ReadFrom, AttributeValue.document_of_text? htext, htext, Document.optionalText?,
      Document.text?, Except.map]

/-- Each setting is read from what the element says for it as its attributes make it. -/
theorem readFrom_said {mode : Mode} {trees : List NodeTree}
    (hid : Element.id tag attributes = .ok id)
    (hsteps : ∀ a ∈ attributes, ∃ step, a.step = .ok step)
    (hplain : ∀ a ∈ attributes, a.value.IsPlain)
    (htrees : decodeNodes mode documents = .ok trees) (field : NodeField) :
    ReadFrom (field.read mode) (({} : NodeDraft).part field) (said tag attributes documents field)
      (NodeDraft.part { spec := spec id tag attributes, children := trees } field) := by
  have htexts : field ∈ NodeField.texts →
      ∀ a ∈ about field attributes, ∃ text, a.value.text? = some text := by
    intro hfield a hmem
    obtain ⟨hattribute, habout⟩ := List.mem_filter.mp hmem
    obtain ⟨step, hstep⟩ := hsteps a hattribute
    exact exists_text_of_about hstep (by simpa using habout) hfield
  have htable : ∀ other, ReadFrom Document.fields? [] (some (object (about other attributes)))
      (table other attributes) := by
    intro other
    exact fields?_object fun a hmem => hplain a (List.mem_of_mem_filter hmem)
  cases field with
  | id =>
    rw [said_id hid]
    rfl
  | widgetType => rfl
  | kind | attachStrategy | childrenAttachStrategy | binding =>
    exact readFrom_lastText? (htexts (by decide))
  | constructorArgs | attributes | attachArgs => exact htable _
  | sequence | hook => rfl
  | children =>
    change (decodeNodes mode documents >>= _) = _
    rw [htrees]
    rfl

end Reading

end Element

private theorem Recipe.trees?_eq_some_iff {recipes : List Recipe} {trees : List NodeTree} :
    trees? recipes = some trees ↔
      List.Forall₂ (fun recipe tree => recipe.tree? = some tree) recipes trees := by
  induction recipes generalizing trees with
  | nil => cases trees <;> simp [trees?]
  | cons recipe rest ih =>
    simp only [trees?, Option.bind_eq_bind, Option.bind_eq_some_iff, ih,
      List.forall₂_cons_left_iff]
    constructor
    · rintro ⟨tree, htree, later, hlater, htrees⟩
      exact ⟨tree, later, htree, hlater, (Option.some.inj htrees).symm⟩
    · rintro ⟨tree, later, htree, hlater, rfl⟩
      exact ⟨tree, htree, later, hlater, rfl⟩

namespace Element

/-- The recipe of an element of plain values makes the tree that its object is decoded to. -/
theorem IsPlain.tree?_eq_decoded {element : Element} (hplain : element.IsPlain) (mode : Mode)
    {recipe : Recipe} (hrecipe : element.recipe? = .ok recipe) :
    ∃ tree, recipe.tree? = some tree ∧ decodeNode mode element.document = .ok tree := by
  induction hplain generalizing recipe with
  | @element tag attributes children closesItself hattributes _ ih =>
    obtain ⟨id, steps, recipes, hid, hsteps, hrecipes, rfl⟩ := recipe?_eq_ok_iff.mp hrecipe
    obtain ⟨trees, hmade, hdecoded⟩ := exists_forall₂_of_made (recipes?_eq_ok_iff.mp hrecipes)
      fun child hchild recipe hrecipe => ih child hchild hrecipe
    have htrees : decodeNodes mode (documents children) = .ok trees := by
      rw [decodeNodes_eq_ok_iff, documents_eq_map, List.forall₂_map_left_iff]
      exact hdecoded
    refine ⟨.settled (spec id tag attributes) trees,
      Recipe.tree?_of_plain hsteps hattributes (Recipe.trees?_eq_some_iff.mpr hmade), ?_⟩
    rw [document]
    exact decodeNode_objectSaying _ _ (said_id hid)
      (readFrom_said hid (Attribute.exists_stepsOf_iff.mp ⟨steps, hsteps⟩) hattributes htrees)

/-- An element of plain values that is for a recipe makes the tree that its object is decoded to,
and so does the element arranged otherwise. -/
theorem tree?_eq_ofDocument? {element : Element} {recipe : Recipe}
    (hrecipe : element.recipe? = .ok recipe) (hplain : element.IsPlain) :
    ∃ tree, recipe.tree? = some tree ∧ NodeTree.ofDocument? element.document = .ok tree ∧
      ∀ other, Rearranges element other →
        ∃ rearranged, other.recipe? = .ok rearranged ∧ rearranged.tree? = some tree := by
  obtain ⟨tree, htree, hdecoded⟩ := hplain.tree?_eq_decoded .whole hrecipe
  refine ⟨tree, htree, NodeTree.ofDocument?_eq_ok_iff.mpr hdecoded, fun other hrearranges => ?_⟩
  have halike := hrearranges.alike
  obtain ⟨rearranged, hrearranged⟩ := halike.accepted.mp ⟨recipe, hrecipe⟩
  obtain ⟨twin, htwin, htwinDecoded⟩ :=
    (halike.isPlain.mp hplain).tree?_eq_decoded .whole hrearranged
  rw [← halike.document, hdecoded] at htwinDecoded
  obtain rfl := Except.ok.inj htwinDecoded
  exact ⟨rearranged, hrearranged, htwin⟩

/-- A panel gives its width twice, and its children attach by its strategy unless they say so
themselves, wherever the strategy stands among the attributes. -/
theorem panel_eq_ofDocument? :
    let text (content : String) : AttributeValue := .literal ⟨"", .text content⟩
    let number (n : Nat) : AttributeValue := .literal ⟨"", .integer n ""⟩
    let label (closesItself : Bool) : Element :=
      .element "Label" [⟨none, "id", text "title"⟩, ⟨none, "text", text "Title"⟩] [] closesItself
    let button : Element :=
      .element "Button" [⟨none, "id", text "close"⟩, ⟨none, "attach", text "grid"⟩,
        ⟨some "attach", "row", .negative ⟨"", .integer 1 ""⟩⟩] [] true
    let strategy : Attribute := ⟨none, "children_attach", text "pack"⟩
    let others : List Attribute :=
      [⟨none, "id", text "panel"⟩, ⟨none, "width", number 10⟩, ⟨some "set", "raised", .flag true⟩,
        ⟨none, "height", number 20⟩, ⟨none, "width", number 30⟩]
    let panel : Element :=
      .element "Frame" (others ++ [strategy]) [label true, button] false
    let rearranged : Element := .element "Frame" (strategy :: others) [label false, button] false
    ∃ recipe other tree, panel.recipe? = .ok recipe ∧ panel.IsPlain ∧
      recipe.tree? = some tree ∧ NodeTree.ofDocument? panel.document = .ok tree ∧
      tree.spec.constructorArgs = [("width", .int 30), ("height", .int 20)] ∧
      tree.children.map (·.spec.attachStrategy) = [some "pack", some "grid"] ∧
      Rearranges panel rearranged ∧ rearranged.recipe? = .ok other ∧
        other.tree? = some tree := by
  intro text number label button strategy others panel rearranged
  obtain ⟨recipe, hrecipe⟩ : ∃ recipe, panel.recipe? = .ok recipe := ⟨_, rfl⟩
  have hplain : panel.IsPlain := by
    subst panel button label others strategy
    simp only [isPlain_iff, List.forall_mem_append, List.forall_mem_cons, List.not_mem_nil,
      false_implies, implies_true, and_true]
    exact ⟨⟨⟨.text _ _, .natural _ (by decide), .flag _, .natural _ (by decide),
      .natural _ (by decide)⟩, .text _ _⟩, ⟨.text _ _, .text _ _⟩, .text _ _, .text _ _,
      .negative _ (by decide)⟩
  have hrearranges : Rearranges panel rearranged := by
    refine .trans (@Rearranges.child _ _ [] _ _ _ _ (.close _ _ true)) (.symm ?_)
    exact @Rearranges.move _ [] others [] strategy _ _ rfl (by decide)
  have hread : ((panel.recipe?).toOption.bind Recipe.tree?).map (fun tree =>
      (tree.spec.constructorArgs, tree.children.map (·.spec.attachStrategy))) =
        some ([("width", .int 30), ("height", .int 20)], [some "pack", some "grid"]) := rfl
  obtain ⟨tree, htree, hdecoded, hother⟩ := tree?_eq_ofDocument? hrecipe hplain
  obtain ⟨other, hrearranged, hsame⟩ := hother rearranged hrearranges
  simp only [hrecipe, Except.toOption, Option.bind_some, htree, Option.map_some, Option.some.injEq,
    Prod.mk.injEq] at hread
  exact ⟨recipe, other, tree, hrecipe, hplain, htree, hdecoded, hread.1, hread.2, hrearranges,
    hrearranged, hsame⟩

end Element

end WidgetTree.Markup
