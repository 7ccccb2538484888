import Mathlib.Data.List.Forall2
import Mathlib.Data.List.Induction
import WidgetTree.Proofs.Node.Draft

namespace WidgetTree

namespace Setting

/-- The setting that a step is about. -/
def field : Setting → NodeField
  | .kind _ => .kind
  | .widgetType _ => .widgetType
  | .attachStrategy _ => .attachStrategy
  | .childrenAttachStrategy _ => .childrenAttachStrategy
  | .constructorArg _ _ => .constructorArgs
  | .attribute _ _ => .attributes
  | .attachArg _ _ => .attachArgs
  | .sequence _ => .sequence
  | .hookCall _ _ => .hook
  | .binding _ => .binding
  | .child _ => .children

/-- The steps about a setting, in order. -/
def about (field : NodeField) (settings : List Setting) : List Setting :=
  settings.filter (·.field = field)

/-- The child that a step adds. -/
def child? : Setting → Option NodeTree
  | child tree => some tree
  | _ => none

/-- What a step says of how direct children attach. -/
def strategy? : Setting → Option String
  | childrenAttachStrategy strategy => some strategy
  | _ => none

/-- The children that steps add, as they are when they join. -/
def childrenOf (settings : List Setting) : List NodeTree := settings.filterMap child?

/-- All that steps say of how direct children attach, in order. -/
def strategiesOf (settings : List Setting) : List String := settings.filterMap strategy?

/-- The children that steps add are that of the first and then those of the others. -/
theorem childrenOf_cons (setting : Setting) (rest : List Setting) :
    childrenOf (setting :: rest) = setting.child?.toList ++ childrenOf rest := by
  cases hchild : setting.child? <;> simp [childrenOf, hchild]

private theorem childrenOf_append (front back : List Setting) :
    childrenOf (front ++ back) = childrenOf front ++ childrenOf back := List.filterMap_append

/-- The strategies that steps say are that of the first and then those of the others. -/
theorem strategiesOf_cons (setting : Setting) (rest : List Setting) :
    strategiesOf (setting :: rest) = setting.strategy?.toList ++ strategiesOf rest := by
  cases hstrategy : setting.strategy? <;> simp [strategiesOf, hstrategy]

private theorem head?_strategiesOf_cons (setting : Setting) (rest : List Setting) :
    (strategiesOf (setting :: rest)).head? =
      setting.strategy?.or (strategiesOf rest).head? := by
  rw [strategiesOf_cons]
  cases setting.strategy? <;> rfl

private theorem child?_eq_none_of_strategy? {setting : Setting} {strategy : String}
    (hstrategy : setting.strategy? = some strategy) : setting.child? = none := by
  cases setting <;> first | rfl | cases hstrategy

private theorem strategy?_eq_none_of_child? {setting : Setting} {tree : NodeTree}
    (hchild : setting.child? = some tree) : setting.strategy? = none := by
  cases setting <;> first | rfl | cases hchild

private theorem strategy?_eq_some_iff {setting : Setting} {strategy : String} :
    setting.strategy? = some strategy ↔ setting = childrenAttachStrategy strategy := by
  cases setting <;> simp [strategy?]

end Setting

namespace NodeTree

open Setting

variable {tree other : NodeTree} {setting : Setting} {field : NodeField}

/-- What the top node holds for a setting. -/
def part (tree : NodeTree) (field : NodeField) : field.Part :=
  NodeDraft.part { spec := tree.spec, children := tree.children } field

section Parts

private theorem part_apply_of_ne (hother : setting.field ≠ field) (hfield : field ≠ .children) :
    (tree.apply setting).part field = tree.part field := by
  cases setting <;> cases field <;>
    first | rfl | exact absurd rfl hother | exact absurd (Eq.refl NodeField.children) hfield

/-- What a step makes of a setting depends on nothing else in the node. -/
theorem part_apply_congr (hfield : field ≠ .children) (hpart : tree.part field = other.part field)
    (setting : Setting) : (tree.apply setting).part field = (other.apply setting).part field := by
  by_cases habout : setting.field = field
  · subst habout
    match setting with
    | .kind _ | .widgetType _ | .attachStrategy _ | .childrenAttachStrategy _ | .binding _ => rfl
    | .constructorArg name value | .attribute name value | .attachArg name value =>
      exact congrArg (Table.insert · name value) hpart
    | .sequence item => exact congrArg (some <| ConfigSequence.append · item) hpart
    | .hookCall method value => exact congrArg (· ++ [Call.shaped method value]) hpart
    | .child _ => exact absurd rfl hfield
  · rw [part_apply_of_ne habout hfield, part_apply_of_ne habout hfield, hpart]

private theorem part_foldl_congr (hfield : field ≠ .children)
    (hpart : tree.part field = other.part field) (settings : List Setting) :
    (settings.foldl apply tree).part field = (settings.foldl apply other).part field := by
  induction settings generalizing tree other with
  | nil => exact hpart
  | cons setting rest ih => exact ih (part_apply_congr hfield hpart setting)

/-- What a run of steps makes of a setting is what the steps about it make of it. -/
theorem part_foldl_about (hfield : field ≠ .children) (settings : List Setting) (tree : NodeTree) :
    (settings.foldl apply tree).part field =
      ((about field settings).foldl apply tree).part field := by
  induction settings generalizing tree with
  | nil => rfl
  | cons setting rest ih =>
    rw [List.foldl_cons, ih]
    by_cases habout : setting.field = field
    · simp [about, habout]
    · have hsame : (tree.apply setting).part field = tree.part field :=
        part_apply_of_ne habout hfield
      simpa [about, habout] using part_foldl_congr hfield hsame (about field rest)

/-- Trees with the same settings and the same children are the same. -/
theorem ext_of_part (hspec : ∀ field, field ≠ .children → tree.part field = other.part field)
    (hchildren : tree.children = other.children) : tree = other := by
  obtain ⟨spec, children⟩ := tree
  obtain ⟨otherSpec, otherChildren⟩ := other
  obtain rfl : children = otherChildren := hchildren
  have hdraft : (⟨[], spec, children⟩ : NodeDraft) = ⟨[], otherSpec, children⟩ := by
    refine NodeDraft.ext_of_part rfl fun field => ?_
    by_cases hfield : field = .children
    · subst hfield
      rfl
    · cases field <;> exact hspec _ hfield
  exact congrArg (fun draft : NodeDraft => node draft.spec children) hdraft

end Parts

section Children

@[simp] theorem inheriting_none (tree : NodeTree) : tree.inheriting none = tree := by
  obtain ⟨spec, children⟩ := tree
  simp [inheriting, mapSpec, NodeTree.spec, NodeTree.children, NodeSpec.inheriting]

/-- A node inherits the first strategy that it is given. -/
@[simp] theorem inheriting_inheriting (tree : NodeTree) (first second : Option String) :
    (tree.inheriting first).inheriting second = tree.inheriting (first.or second) := by
  simp [inheriting, mapSpec, NodeTree.spec, NodeTree.children, NodeSpec.inheriting, Option.or_assoc]

/-- A node attaches by its own strategy, and by the inherited one only if it has none. -/
@[simp] theorem attachStrategy_inheriting (tree : NodeTree) (strategy : Option String) :
    (tree.inheriting strategy).spec.attachStrategy = tree.spec.attachStrategy.or strategy := rfl

/-- What a step says reaches the children that are there, and the child that it adds takes what the
node says. -/
theorem children_apply (tree : NodeTree) (setting : Setting) :
    (tree.apply setting).children =
      tree.children.map (·.inheriting setting.strategy?) ++
        setting.child?.toList.map (·.inheriting tree.spec.childrenAttachStrategy) := by
  cases setting <;>
    simp [apply, withChildrenAttachStrategy, settled, withChild, mapSpec, child?, strategy?,
      NodeTree.children]

/-- A step changes what a node says for its children only if it is about that. -/
@[simp] theorem childrenAttachStrategy_apply (tree : NodeTree) (setting : Setting) :
    (tree.apply setting).spec.childrenAttachStrategy =
      setting.strategy?.or tree.spec.childrenAttachStrategy := by
  cases setting <;> rfl

/-- The children that steps add to a node that says `current` of how children attach, as they are
once all steps are taken. -/
def joined (current : Option String) : List Setting → List NodeTree
  | [] => []
  | setting :: rest =>
    setting.child?.toList.map (·.inheriting (current.or (strategiesOf rest).head?)) ++
      joined (setting.strategy?.or current) rest

private theorem length_joined (current : Option String) (settings : List Setting) :
    (joined current settings).length = (childrenOf settings).length := by
  induction settings generalizing current with
  | nil => rfl
  | cons setting rest ih => simp [joined, childrenOf_cons, ih]

/-- A run of steps says something to the children that are there by the first strategy in it. -/
theorem children_foldl_apply (settings : List Setting) (tree : NodeTree) :
    (settings.foldl apply tree).children =
      tree.children.map (·.inheriting (strategiesOf settings).head?) ++
        joined tree.spec.childrenAttachStrategy settings := by
  induction settings generalizing tree with
  | nil => simp [strategiesOf, joined]
  | cons setting rest ih =>
    rw [List.foldl_cons, ih, children_apply, head?_strategiesOf_cons]
    simp [joined, Function.comp_def]

private theorem length_children_foldl_apply (settings : List Setting) (tree : NodeTree) :
    (settings.foldl apply tree).children.length =
      tree.children.length + (childrenOf settings).length := by
  simp [children_foldl_apply, length_joined]

/-- While one strategy is said only, it does not matter when the children join. -/
theorem joined_of_agree {current : Option String} {settings : List Setting} {strategy : String}
    (hcurrent : ∀ said ∈ current, said = strategy)
    (hagree : ∀ said ∈ strategiesOf settings, said = strategy) :
    joined current settings =
      (childrenOf settings).map (·.inheriting (current.or (strategiesOf settings).head?)) := by
  induction settings generalizing current with
  | nil => rfl
  | cons setting rest ih =>
    have hrest : ∀ said ∈ strategiesOf rest, said = strategy := fun said hsaid =>
      hagree said (by simp [strategiesOf_cons, hsaid])
    rw [joined, childrenOf_cons, head?_strategiesOf_cons]
    cases hsaid : setting.strategy? with
    | none => simp [ih hcurrent hrest]
    | some said =>
      obtain rfl : said = strategy := hagree said (by simp [strategiesOf_cons, hsaid])
      have hnext : ∀ other ∈ some said, other = said := fun _ hother =>
        (Option.some.inj hother).symm
      have hsame : current.or (some said) = some said := by
        cases current with
        | none => rfl
        | some old => rw [Option.some_or, hcurrent old rfl]
      simp [child?_eq_none_of_strategy? hsaid, ih hnext hrest, hsame]

end Children

section Inheritance

/-- A child that was added as `added` still attaches by its own strategy, if it had one. -/
def KeepsOwn (added child : NodeTree) : Prop :=
  ∀ strategy, added.spec.attachStrategy = some strategy →
    child.spec.attachStrategy = some strategy

/-- A child that was added as `added` attaches by its own strategy, or as the node says now if it
had none. -/
structure InheritsFrom (node added child : NodeTree) : Prop where
  own : KeepsOwn added child
  silent : added.spec.attachStrategy = none →
    child.spec.attachStrategy = node.spec.childrenAttachStrategy

private theorem inheritsFrom_iff {node added child : NodeTree} :
    InheritsFrom node added child ↔
      child.spec.attachStrategy =
        added.spec.attachStrategy.or node.spec.childrenAttachStrategy := by
  constructor
  · intro hinherits
    cases hown : added.spec.attachStrategy with
    | none => exact hinherits.silent hown
    | some strategy => exact hinherits.own strategy hown
  · intro hchild
    exact ⟨fun strategy hown => by simp [hchild, hown], fun hsilent => by simp [hchild, hsilent]⟩

/-- Some step says another strategy than the node said before it, while a child is there that has
none of its own. -/
def SwitchesStrategy (start : NodeTree) (present : List NodeTree) (settings : List Setting) :
    Prop :=
  ∃ before after old new, settings = before ++ .childrenAttachStrategy new :: after ∧
    (before.foldl apply start).spec.childrenAttachStrategy = some old ∧ old ≠ new ∧
    ∃ child ∈ present ++ childrenOf before, child.spec.attachStrategy = none

variable {start : NodeTree} {present : List NodeTree} {settings : List Setting}

/-- One step keeps the children in line with the node, unless it says another strategy. -/
theorem inheritsFrom_apply {node : NodeTree} {added : List NodeTree}
    (hall : List.Forall₂ (InheritsFrom node) added node.children) (setting : Setting)
    (hkeeps : ∀ old new, node.spec.childrenAttachStrategy = some old →
      setting = .childrenAttachStrategy new → old ≠ new →
        ∀ child ∈ added, child.spec.attachStrategy ≠ none) :
    List.Forall₂ (InheritsFrom (node.apply setting)) (added ++ setting.child?.toList)
      (node.apply setting).children := by
  rw [children_apply]
  apply List.rel_append
  · rw [List.forall₂_map_right_iff]
    refine List.Forall₂.imp ?_ ((List.forall₂_and_left _ _).mpr ⟨fun _ hmem => hmem, hall⟩)
    rintro added child ⟨hadded, hinherits⟩
    rw [inheritsFrom_iff] at hinherits ⊢
    rw [attachStrategy_inheriting, hinherits, childrenAttachStrategy_apply]
    cases hsaid : setting.strategy? with
    | none => simp
    | some new =>
      cases hold : node.spec.childrenAttachStrategy with
      | none => simp
      | some old =>
        by_cases hsame : old = new
        · simp [hsame]
        · have hown := hkeeps old new hold (strategy?_eq_some_iff.mp hsaid) hsame added hadded
          obtain ⟨own, hown⟩ := Option.ne_none_iff_exists'.mp hown
          simp [hown]
  · cases hchild : setting.child? with
    | none => simp
    | some child =>
      have hquiet : setting.strategy? = none := strategy?_eq_none_of_child? hchild
      simp [inheritsFrom_iff, hquiet]

/-- The children stay in line with their node until it switches its strategy. -/
theorem inheritsFrom_foldl_apply
    (hstart : List.Forall₂ (InheritsFrom start) present start.children)
    (hsteady : ¬ SwitchesStrategy start present settings) {steps : List Setting}
    (hsteps : steps <+: settings) :
    List.Forall₂ (InheritsFrom (steps.foldl apply start)) (present ++ childrenOf steps)
      (steps.foldl apply start).children := by
  induction steps using List.reverseRecOn with
  | nil => simpa [childrenOf] using hstart
  | append_singleton steps setting ih =>
    have hall := ih ((List.prefix_append steps [setting]).trans hsteps)
    have hnext := inheritsFrom_apply hall setting fun old new hold hsetting hne child hchild => by
      obtain ⟨after, rfl⟩ := hsteps
      intro hsilent
      exact hsteady ⟨steps, after, old, new, by simp [hsetting], hold, hne, child, hchild, hsilent⟩
    rw [List.foldl_append, List.foldl_cons, List.foldl_nil, childrenOf_append, childrenOf_cons,
      ← List.append_assoc]
    simpa [childrenOf] using hnext

/-- A child that took the old strategy does not take the new one. -/
theorem SwitchesStrategy.not_inheritsFrom (hswitches : SwitchesStrategy start present settings) :
    ∃ steps, steps <+: settings ∧
      ¬ List.Forall₂ (InheritsFrom (steps.foldl apply start)) (present ++ childrenOf steps)
        (steps.foldl apply start).children := by
  obtain ⟨before, after, old, new, rfl, hold, hne, child, hchild, hsilent⟩ := hswitches
  by_cases hbefore : List.Forall₂ (InheritsFrom (before.foldl apply start))
      (present ++ childrenOf before) (before.foldl apply start).children
  · refine ⟨before ++ [.childrenAttachStrategy new], ⟨after, by simp⟩, fun hafter => hne ?_⟩
    rw [List.foldl_append, List.foldl_cons, List.foldl_nil, children_apply, childrenOf_append,
      childrenOf_cons] at hafter
    simp only [child?, strategy?, childrenOf, List.filterMap_nil, Option.toList_none,
      List.map_nil, List.append_nil, List.forall₂_map_right_iff] at hafter hbefore hchild
    obtain ⟨place, hplace, rfl⟩ := List.mem_iff_getElem.mp hchild
    have hheld := hbefore.length_eq ▸ hplace
    have htook := (hbefore.get hplace hheld).silent hsilent
    have htakes := (hafter.get hplace hheld).silent hsilent
    rw [hold] at htook
    rw [attachStrategy_inheriting, htook] at htakes
    simpa [strategy?] using htakes
  · exact ⟨before, List.prefix_append before _, hbefore⟩

private theorem keepsOwn_joined (current : Option String) (settings : List Setting) :
    List.Forall₂ KeepsOwn (childrenOf settings) (joined current settings) := by
  induction settings generalizing current with
  | nil => exact .nil
  | cons setting rest ih =>
    rw [childrenOf_cons, joined]
    refine List.rel_append ?_ (ih _)
    cases setting.child? with
    | none => simp
    | some child =>
      refine .cons (fun strategy hown => ?_) .nil
      rw [attachStrategy_inheriting, hown, Option.some_or]

private theorem keepsOwn_foldl_apply (hstart : List.Forall₂ KeepsOwn present start.children)
    (settings : List Setting) :
    List.Forall₂ KeepsOwn (present ++ childrenOf settings)
      (settings.foldl apply start).children := by
  rw [children_foldl_apply]
  refine List.rel_append ?_ (keepsOwn_joined _ _)
  rw [List.forall₂_map_right_iff]
  refine hstart.imp fun added child hkeeps strategy hown => ?_
  rw [attachStrategy_inheriting, hkeeps strategy hown, Option.some_or]

/-- A child takes what the node says when it joins, or the first that the node says afterwards. -/
theorem attachStrategy_of_joined (before after : List Setting) (child start : NodeTree) :
    ∃ held, ((before ++ .child child :: after).foldl apply start).children[
        start.children.length + (childrenOf before).length]? = some held ∧
      held.spec.attachStrategy =
        child.spec.attachStrategy.or
          ((before.foldl apply start).spec.childrenAttachStrategy.or
            (strategiesOf after).head?) := by
  rw [List.foldl_append, List.foldl_cons, children_foldl_apply, children_apply,
    ← length_children_foldl_apply]
  simp [child?, strategy?]

private theorem childrenAttachStrategy_of_agree {strategy : String}
    (hstart : ∀ said ∈ start.spec.childrenAttachStrategy, said = strategy)
    (hagree : ∀ said ∈ strategiesOf settings, said = strategy) :
    ∀ said ∈ (settings.foldl apply start).spec.childrenAttachStrategy, said = strategy := by
  induction settings generalizing start with
  | nil => exact hstart
  | cons setting rest ih =>
    rw [strategiesOf_cons, List.forall_mem_append] at hagree
    refine ih ?_ hagree.2
    rw [childrenAttachStrategy_apply]
    cases hsaid : setting.strategy? with
    | none => simpa using hstart
    | some said => simpa [hsaid] using hagree.1

/-- To say one strategy again and again is not to switch. -/
theorem not_switchesStrategy_of_agree {strategy : String}
    (hstart : ∀ said ∈ start.spec.childrenAttachStrategy, said = strategy)
    (hagree : ∀ said ∈ strategiesOf settings, said = strategy) :
    ¬ SwitchesStrategy start present settings := by
  rintro ⟨before, after, old, new, rfl, hold, hne, -⟩
  simp only [strategiesOf, List.filterMap_append, List.forall_mem_append] at hagree
  have hbefore := childrenAttachStrategy_of_agree hstart hagree.1 old hold
  have hnew := hagree.2 new (by simp [strategy?])
  exact hne (hbefore.trans hnew.symm)

/-- Whatever the steps and their order, each child that had a strategy of its own when it was added
keeps it, and any other takes what the node says when it joins or first says afterwards. So after
every step each child attaches by its own strategy or as the node says then, unless the node
switches its strategy while a child is there that has none of its own. -/
theorem children_inherit_iff_not_switchesStrategy
    (hstart : List.Forall₂ (InheritsFrom start) present start.children) (settings : List Setting) :
    (∀ steps, steps <+: settings →
      List.Forall₂ KeepsOwn (present ++ childrenOf steps) (steps.foldl apply start).children) ∧
    (∀ before child after, settings = before ++ .child child :: after →
      ∃ held, (settings.foldl apply start).children[(present ++ childrenOf before).length]? =
          some held ∧
        held.spec.attachStrategy =
          child.spec.attachStrategy.or
            ((before.foldl apply start).spec.childrenAttachStrategy.or
              (strategiesOf after).head?)) ∧
    ((∀ steps, steps <+: settings →
      List.Forall₂ (InheritsFrom (steps.foldl apply start)) (present ++ childrenOf steps)
        (steps.foldl apply start).children) ↔
      ¬ SwitchesStrategy start present settings) := by
  refine ⟨fun steps _ => ?_, ?_, ?_⟩
  · exact keepsOwn_foldl_apply (hstart.imp fun _ _ hinherits => hinherits.own) steps
  · rintro before child after rfl
    rw [List.length_append, hstart.length_eq]
    exact attachStrategy_of_joined before after child start
  · constructor
    · intro hall hswitches
      obtain ⟨steps, hsteps, hnot⟩ := hswitches.not_inheritsFrom
      exact hnot (hall steps hsteps)
    · intro hsteady steps hsteps
      exact inheritsFrom_foldl_apply hstart hsteady hsteps

/-- A child without a strategy of its own, one with such a strategy, and the node's strategy said
between the two and once more at the end. -/
theorem children_inherit_packed :
    let silent := ofId "silent"
    let own := ofSettings "own" [.attachStrategy "grid"]
    let settings := [.child silent, .childrenAttachStrategy "pack", .child own,
      .childrenAttachStrategy "pack"]
    List.Forall₂ (InheritsFrom (ofId "root")) [] (ofId "root").children ∧
      ¬ SwitchesStrategy (ofId "root") [] settings ∧
      List.Forall₂ (InheritsFrom (ofSettings "root" settings)) [silent, own]
        (ofSettings "root" settings).children := by
  intro silent own settings
  have hsteady : ¬ SwitchesStrategy (ofId "root") [] settings :=
    @not_switchesStrategy_of_agree _ _ _ "pack" (by simp [ofId, NodeTree.spec, NodeSpec.ofId])
      (by decide)
  refine ⟨.nil, hsteady, ?_⟩
  exact (children_inherit_iff_not_switchesStrategy .nil settings).2.2.mpr hsteady settings
    List.prefix_rfl

/-- A child without a strategy of its own keeps the one that its node said first when the node says
another one. -/
theorem silent_child_keeps_switched_strategy :
    let settings := [.child (ofId "a"), .childrenAttachStrategy "pack",
      .childrenAttachStrategy "grid"]
    ¬ List.Forall₂ (InheritsFrom (ofSettings "root" settings)) (childrenOf settings)
      (ofSettings "root" settings).children := by
  intro settings hall
  have hchild := (List.forall₂_cons.mp hall).1.silent rfl
  revert hchild
  decide

end Inheritance

end NodeTree

end WidgetTree
