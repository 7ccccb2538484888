import WidgetTree.Proofs.Markup.Arrangement

namespace WidgetTree.Markup

namespace Attribute

variable {a : Attribute} {attributes : List Attribute} {field : NodeField}

/-- The text of the last attribute that is about a setting. -/
def lastText? (field : NodeField) (attributes : List Attribute) : Option String :=
  (about field attributes).getLast?.bind (·.value.text?)

/-- The table of all that attributes give for a setting. -/
def table (field : NodeField) (attributes : List Attribute) : Fields Value :=
  Table.ofPairs (pairs (about field attributes))

private theorem about_append (field : NodeField) (front back : List Attribute) :
    about field (front ++ back) = about field front ++ about field back := List.filter_append ..

private theorem about_singleton (field : NodeField) (a : Attribute) :
    about field [a] = if a.field? = some field then [a] else [] := by
  by_cases hfield : a.field? = some field <;> simp [about, hfield]

private theorem lastText?_append_singleton (field : NodeField) (front : List Attribute)
    (a : Attribute) : lastText? field (front ++ [a]) =
      if a.field? = some field then a.value.text? else lastText? field front := by
  rw [lastText?, about_append, about_singleton]
  by_cases hfield : a.field? = some field
  · simp [hfield]
  · simp [hfield, lastText?]

private theorem table_append_singleton (field : NodeField) (front : List Attribute)
    (a : Attribute) : table field (front ++ [a]) =
      if a.field? = some field then (table field front).insert a.name a.value.held
      else table field front := by
  rw [table, about_append, about_singleton]
  by_cases hfield : a.field? = some field
  · simp [hfield, pairs, table, Table.ofPairs, Table.insertAll_append]
  · simp [hfield, table]

/-- The step of an attribute about a setting. -/
inductive StepAbout (a : Attribute) : NodeField → Option RecipeStep → Prop
  | id : StepAbout a .id none
  | kind {text : String} (htext : a.value.text? = some text) :
      StepAbout a .kind (some (.kind text))
  | attachStrategy {text : String} (htext : a.value.text? = some text) :
      StepAbout a .attachStrategy (some (.attachStrategy text))
  | childrenAttachStrategy {text : String} (htext : a.value.text? = some text) :
      StepAbout a .childrenAttachStrategy (some (.childrenAttachStrategy text))
  | binding {text : String} (htext : a.value.text? = some text) :
      StepAbout a .binding (some (.binding text))
  | constructorArgs : StepAbout a .constructorArgs (some (.constructorArg a.name a.value))
  | attributes : StepAbout a .attributes (some (.attribute a.name a.value))
  | attachArgs : StepAbout a .attachArgs (some (.attachArg a.name a.value))

/-- An attribute is set to a text if its value is one. -/
theorem text_eq_ok_iff {text : String} : a.text = .ok text ↔ a.value.text? = some text := by
  unfold Attribute.text
  cases a.value.text? <;> simp

private theorem exists_text_of_map {step : Option RecipeStep} {make : String → Option RecipeStep}
    (hstep : a.text.map make = .ok step) :
    ∃ text, a.value.text? = some text ∧ make text = step := by
  simpa only [except_map_eq_ok_iff, text_eq_ok_iff] using hstep

/-- The step of an attribute is about the setting that the attribute is about. -/
theorem stepAbout_of_step {step : Option RecipeStep} (hstep : a.step = .ok step) :
    ∃ field, a.field? = some field ∧ StepAbout a field step := by
  obtain ⟨qualifier, name, value⟩ := a
  unfold Attribute.step at hstep
  unfold field?
  dsimp only at hstep ⊢
  split at hstep
  · unfold ownStep at hstep
    dsimp only at hstep ⊢
    split at hstep
    · obtain rfl := Except.ok.inj hstep
      exact ⟨.id, rfl, .id⟩
    · obtain ⟨text, htext, rfl⟩ := exists_text_of_map hstep
      exact ⟨.kind, rfl, .kind htext⟩
    · obtain ⟨text, htext, rfl⟩ := exists_text_of_map hstep
      exact ⟨.attachStrategy, rfl, .attachStrategy htext⟩
    · obtain ⟨text, htext, rfl⟩ := exists_text_of_map hstep
      exact ⟨.childrenAttachStrategy, rfl, .childrenAttachStrategy htext⟩
    · obtain ⟨text, htext, rfl⟩ := exists_text_of_map hstep
      exact ⟨.binding, rfl, .binding htext⟩
    · obtain rfl := Except.ok.inj hstep
      exact ⟨.constructorArgs, by simp [*], .constructorArgs⟩
  · obtain rfl := Except.ok.inj hstep
    exact ⟨.attachArgs, rfl, .attachArgs⟩
  · obtain rfl := Except.ok.inj hstep
    exact ⟨.attributes, rfl, .attributes⟩
  · cases hstep

end Attribute

namespace Element

open Attribute

/-- The settings that an element of plain values makes for its node. -/
def spec (id tag : String) (attributes : List Attribute) : NodeSpec where
  id
  kind := lastText? .kind attributes
  widgetType := some tag
  attachStrategy := lastText? .attachStrategy attributes
  childrenAttachStrategy := lastText? .childrenAttachStrategy attributes
  constructorArgs := table .constructorArgs attributes
  attributes := table .attributes attributes
  attachArgs := table .attachArgs attributes
  binding := lastText? .binding attributes

variable {id tag : String} {a : Attribute}

/-- One attribute more makes one step more, which changes the setting that the attribute is
about. -/
theorem apply_stepAbout {field : NodeField} {step : Option RecipeStep}
    (habout : StepAbout a field step) (hfield : a.field? = some field) (hplain : a.value.IsPlain)
    (front : List Attribute) :
    ∃ settings, step.toList.mapM RecipeStep.setting? = some settings ∧
      settings.foldl NodeTree.apply (.node (spec id tag front) []) =
        .node (spec id tag (front ++ [a])) [] := by
  have hheld : a.value.plain? = some a.value.held := hplain.value?_document.1
  cases habout with
  | id =>
    refine ⟨[], rfl, ?_⟩
    simp [spec, lastText?_append_singleton, table_append_singleton, hfield]
  | kind htext | attachStrategy htext | binding htext =>
    refine ⟨_, rfl, ?_⟩
    simp [NodeTree.apply, NodeTree.mapSpec, NodeTree.spec, NodeTree.children, spec,
      lastText?_append_singleton, table_append_singleton, hfield, htext]
  | childrenAttachStrategy htext =>
    refine ⟨_, rfl, ?_⟩
    simp [NodeTree.apply, NodeTree.withChildrenAttachStrategy, NodeTree.settled, NodeTree.spec,
      NodeTree.children, spec, lastText?_append_singleton, table_append_singleton, hfield, htext]
  | constructorArgs | attributes | attachArgs =>
    refine ⟨_, by simp [RecipeStep.setting?, hheld]; rfl, ?_⟩
    simp [NodeTree.apply, NodeTree.mapSpec, NodeTree.spec, NodeTree.children,
      NodeSpec.withConstructorArg, NodeSpec.withAttribute, NodeSpec.withAttachArg, spec,
      lastText?_append_singleton, table_append_singleton, hfield]

/-- The steps of attributes make the settings that can be read off the attributes. -/
theorem apply_stepsOf {attributes : List Attribute} {steps : List RecipeStep}
    (hsteps : stepsOf attributes = .ok steps) (hplain : ∀ a ∈ attributes, a.value.IsPlain)
    (front : List Attribute) :
    ∃ settings, steps.mapM RecipeStep.setting? = some settings ∧
      settings.foldl NodeTree.apply (.node (spec id tag front) []) =
        .node (spec id tag (front ++ attributes)) [] := by
  induction attributes generalizing front steps with
  | nil =>
    obtain rfl := Except.ok.inj hsteps
    exact ⟨[], rfl, by simp⟩
  | cons a rest ih =>
    obtain ⟨step, later, hstep, hlater, rfl⟩ := stepsOf_cons_eq_ok_iff.mp hsteps
    obtain ⟨field, hfield, habout⟩ := stepAbout_of_step hstep
    obtain ⟨ha, hrest⟩ := List.forall_mem_cons.mp hplain
    obtain ⟨first, hfirst, happly⟩ := @apply_stepAbout id tag a field step habout hfield ha front
    obtain ⟨others, hothers, hrun⟩ := ih hlater hrest (front ++ [a])
    refine ⟨first ++ others, by simp [hfirst, hothers], ?_⟩
    rw [List.foldl_append, happly, hrun, List.append_assoc, List.singleton_append]

end Element

private theorem foldl_apply_child (spec : NodeSpec) (front trees : List NodeTree) :
    (trees.map Setting.child).foldl NodeTree.apply (.node spec front) =
      .node spec (front ++ trees.map (·.inheriting spec.childrenAttachStrategy)) := by
  induction trees generalizing front with
  | nil => simp
  | cons tree rest ih =>
    have hfirst : NodeTree.apply (.node spec front) (.child tree) =
        .node spec (front ++ [tree.inheriting spec.childrenAttachStrategy]) := rfl
    rw [List.map_cons, List.foldl_cons, hfirst, ih]
    simp

/-- The recipe of an element with plain values makes the node with the settings that the attributes
make and the nodes inside, which attach as the node says unless they say so themselves. -/
theorem Recipe.tree?_of_plain {id tag : String} {attributes : List Attribute}
    {steps : List RecipeStep} {recipes : List Recipe} {trees : List NodeTree}
    (hsteps : Attribute.stepsOf attributes = .ok steps)
    (hplain : ∀ a ∈ attributes, a.value.IsPlain) (htrees : trees? recipes = some trees) :
    tree? (.recipe id (.widgetType tag :: steps) recipes) =
      some (.settled (Element.spec id tag attributes) trees) := by
  obtain ⟨settings, hsettings, hrun⟩ :=
    @Element.apply_stepsOf id tag attributes steps hsteps hplain []
  have htag : NodeTree.apply (.ofId id) (.widgetType tag) = .node (Element.spec id tag []) [] := rfl
  have hall : (RecipeStep.widgetType tag :: steps).mapM RecipeStep.setting? =
      some (.widgetType tag :: settings) := by
    simp [hsettings, RecipeStep.setting?]
  have hnode : NodeTree.ofSettings id (.widgetType tag :: settings ++ trees.map .child) =
      .settled (Element.spec id tag attributes) trees := by
    rw [NodeTree.ofSettings, List.foldl_append, List.foldl_cons, htag, hrun, foldl_apply_child]
    rfl
  simp only [tree?, hall, htrees, Option.bind_eq_bind, Option.bind_some, hnode]
  rfl

end WidgetTree.Markup
