import WidgetTree.Element.Core
import WidgetTree.Proofs.Act
import WidgetTree.Proofs.Node.Draft

namespace WidgetTree

namespace Value

mutual

/-- What is left of a value once all lists in it are opened, from left to right. -/
def leaves : Value → List Value
  | list items => leavesOf items
  | leaf => [leaf]

/-- What is left of several values. -/
def leavesOf : List Value → List Value
  | [] => []
  | item :: rest => leaves item ++ leavesOf rest

end

/-- Lists are opened where they stand, and one with nothing in it leaves nothing. -/
example (first second : Fields Value) :
    leaves (.list [.mapping first, .list [.list [], .mapping second]]) =
      [.mapping first, .mapping second] := rfl

def isMapping (value : Value) : Bool := value.mapping?.isSome

/-- The calls that a mapping declares, one for each entry; other values declare none. -/
def declaredCalls (value : Value) : List Call :=
  (value.mapping?.getD []).map fun (method, item) => ⟨method, .shaped item⟩

end Value

namespace ConfigSequence

/-- What comes of reading leaves: the calls of all, each of which is a mapping, or the refusal of
the first that is none. -/
def Takes {α : Type} (callsIn : α → List Call) (leaves : List Value) : Except SchemaError α → Prop
  | .ok result =>
    (∀ leaf ∈ leaves, leaf.isMapping = true) ∧ callsIn result = leaves.flatMap Value.declaredCalls
  | .error error =>
    ∃ leaf, leaves.find? (!·.isMapping) = some leaf ∧ error = .badItem leaf.shape

private theorem Takes.append {front behind : List Value} {first : Except SchemaError ConfigSequence}
    {rest : Except SchemaError (List ConfigSequence)} (hfirst : Takes calls front first)
    (hrest : Takes callsOf behind rest) :
    Takes callsOf (front ++ behind) (do
      let item ← first
      let items ← rest
      return item :: items) := by
  cases first with
  | error error =>
    obtain ⟨leaf, hleaf, rfl⟩ := hfirst
    exact ⟨leaf, by simp [List.find?_append, hleaf], rfl⟩
  | ok item =>
    obtain ⟨hfront, hcalls⟩ := hfirst
    have hnone : front.find? (!·.isMapping) = none := by simpa using hfront
    cases rest with
    | error error =>
      obtain ⟨leaf, hleaf, rfl⟩ := hrest
      exact ⟨leaf, by simp [List.find?_append, hnone, hleaf], rfl⟩
    | ok items =>
      obtain ⟨hbehind, hmore⟩ := hrest
      refine ⟨?_, ?_⟩
      · intro leaf hleaf
        exact (List.mem_append.mp hleaf).elim (hfront leaf) (hbehind leaf)
      · rw [callsOf, hcalls, hmore, List.flatMap_append]

mutual

/-- A value is read as its leaves are. -/
theorem ofValue?_takes : ∀ value : Value, Takes calls value.leaves (ofValue? value)
  | .mapping entries => by
    simp [ofValue?, Takes, Value.leaves, Value.isMapping, Value.mapping?, Value.declaredCalls,
      calls, Call.ofMapping, Call.shaped]
  | .list items => by
    have hitems := ofValues?_takes items
    rw [ofValue?, Value.leaves]
    cases hread : ofValues? items with
    | error error =>
      rw [hread] at hitems
      exact hitems
    | ok sequences =>
      rw [hread] at hitems
      exact hitems
  | .null | .bool _ | .int _ | .float _ | .string _ | .widget _ | .stateVariable _ | .command _ =>
    ⟨_, rfl, rfl⟩

private theorem ofValues?_takes : ∀ values : List Value,
    Takes callsOf (Value.leavesOf values) (ofValues? values)
  | [] => ⟨nofun, rfl⟩
  | value :: rest => by
    rw [ofValues?, Value.leavesOf]
    exact (ofValue?_takes value).append (ofValues?_takes rest)

end

mutual

/-- A sequence counts as empty exactly if it makes no call. -/
theorem isEmpty_iff : ∀ sequence : ConfigSequence, sequence.isEmpty = true ↔ sequence.calls = []
  | steps made => by rw [isEmpty, calls, List.isEmpty_iff]
  | nested items => by rw [isEmpty, calls, areEmpty_iff items]

private theorem areEmpty_iff :
    ∀ items : List ConfigSequence, areEmpty items = true ↔ callsOf items = []
  | [] => by simp [areEmpty, callsOf]
  | item :: rest => by
    rw [areEmpty, Bool.and_eq_true, isEmpty_iff item, areEmpty_iff rest, callsOf,
      List.append_eq_nil_iff]

end

private theorem callsOf_append (front behind : List ConfigSequence) :
    callsOf (front ++ behind) = callsOf front ++ callsOf behind := by
  induction front with
  | nil => rfl
  | cons item rest ih => rw [List.cons_append, callsOf, callsOf, ih, List.append_assoc]

/-- Whatever there was before, the calls of an item that is added are made last. -/
theorem calls_append (before : Option ConfigSequence) (item : ConfigSequence) :
    (append before item).calls = (before.map calls).getD [] ++ item.calls := by
  match before with
  | none => rfl
  | some (steps made) => simp [append, calls, callsOf]
  | some (nested items) => simp [append, calls, callsOf, callsOf_append]

end ConfigSequence

/-- The item that a step adds to the configuration sequence. -/
def Setting.item? : Setting → Option ConfigSequence
  | sequence item => some item
  | _ => none

/-- A step adds the calls of its item to those of the node. -/
theorem NodeTree.sequenceCalls_apply (tree : NodeTree) (setting : Setting) :
    (tree.apply setting).spec.sequenceCalls =
      tree.spec.sequenceCalls ++ setting.item?.toList.flatMap ConfigSequence.calls := by
  cases setting with
  | sequence item =>
    have hcalls := ConfigSequence.calls_append tree.spec.sequence item
    simp only [Setting.item?, Option.toList_some, List.flatMap_cons, List.flatMap_nil,
      List.append_nil]
    refine hcalls.trans ?_
    rw [NodeSpec.sequenceCalls]
    cases tree.spec.sequence <;> rfl
  | _ => simp [Setting.item?, NodeTree.apply, NodeTree.mapSpec, NodeSpec.sequenceCalls, spec,
      withChildrenAttachStrategy, settled, withChild, NodeSpec.withConstructorArg,
      NodeSpec.withAttribute, NodeSpec.withAttachArg, NodeSpec.withHookCall]

private theorem NodeTree.sequenceCalls_foldl_apply (tree : NodeTree) (settings : List Setting) :
    (settings.foldl apply tree).spec.sequenceCalls =
      tree.spec.sequenceCalls ++
        (settings.filterMap Setting.item?).flatMap ConfigSequence.calls := by
  induction settings generalizing tree with
  | nil => simp
  | cons setting rest ih =>
    rw [List.foldl_cons, ih, sequenceCalls_apply]
    cases hitem : setting.item? <;> simp [hitem]

/-- A node has a sequence once an item is added. -/
theorem NodeTree.sequence_foldl_apply_eq_none_iff (tree : NodeTree) (settings : List Setting) :
    (settings.foldl apply tree).spec.sequence = none ↔
      tree.spec.sequence = none ∧ settings.filterMap Setting.item? = [] := by
  induction settings generalizing tree with
  | nil => simp
  | cons setting rest ih =>
    rw [List.foldl_cons, ih]
    cases setting with
    | sequence item => simp [apply, mapSpec, NodeSpec.withSequence, spec, Setting.item?]
    | _ => rfl

namespace Core

variable {σ : Type} [Toolkit σ]

/-- Calls made on a widget one after the other, all of which succeed, lead from one state of the
toolkit to another. -/
inductive Makes (widget : WidgetId) : List Call → σ → σ → Prop
  | none (state : σ) : Makes widget [] state state
  | next {first : Call} {rest : List Call} {before middle after : σ} {answer : Value}
      (hfirst : Toolkit.invoke widget first before = (.ok answer, middle))
      (hrest : Makes widget rest middle after) : Makes widget (first :: rest) before after

/-- What comes of calls, made in order and in the name of a node: all of them succeed, or those
before one that fails do, and none behind it is made. -/
inductive MakesUpTo (node : String) (widget : WidgetId) (calls : List Call) (before : σ) :
    Except BuildError Unit × σ → Prop
  | all {after : σ} (hmade : Makes widget calls before after) :
      MakesUpTo node widget calls before (.ok (), after)
  | failed {made rest : List Call} {failing : Call} {middle after : σ} {source : ToolkitError}
      (hcalls : calls = made ++ failing :: rest) (hmade : Makes widget made before middle)
      (hfailed : Toolkit.invoke widget failing middle = (.error source, after)) :
      MakesUpTo node widget calls before (.error (.ofInvoke node failing.method source), after)

private theorem callAll_makesUpTo (node : String) (widget : WidgetId) (calls : List Call)
    (state : σ) :
    MakesUpTo node widget calls state ((callAll node widget calls).perform state) := by
  induction calls generalizing state with
  | nil => exact .all (.none state)
  | cons first rest ih =>
    have hperform := Act.perform_ofOperation (.ofInvoke node first.method)
      (Toolkit.invoke widget first) state
    rw [callAll, call]
    rcases hfirst : Toolkit.invoke widget first state with ⟨source | answer, middle⟩
    · rw [hfirst] at hperform
      rw [Act.perform_bind_error hperform]
      exact .failed (List.nil_append _).symm (.none state) hfirst
    · rw [hfirst] at hperform
      rw [Act.perform_bind_ok hperform]
      have hrest := ih middle
      generalize (callAll node widget rest).perform middle = outcome at hrest
      cases hrest with
      | all hmade => exact .all (.next hfirst hmade)
      | @failed made behind failing _ _ _ hcalls hmade hfailed =>
        have hall : first :: rest = (first :: made) ++ failing :: behind := by
          rw [hcalls, List.cons_append]
        exact .failed hall (.next hfirst hmade) hfailed

/-- The core with this configuration sequence and this widget. -/
def sequenced (core : Core) (sequence : ConfigSequence) (widget : WidgetId) : Core :=
  { core with spec := { core.spec with sequence := some sequence }, widget := some widget }

private theorem applySequence_makesUpTo (core : Core) (sequence : ConfigSequence)
    (widget : WidgetId) (state : σ) :
    MakesUpTo core.id widget sequence.calls state
      ((core.sequenced sequence widget).applySequence.perform state) := by
  have hwidget : (Act.ofExcept (core.sequenced sequence widget).requireWidget : Act σ _).perform
      state = (.ok widget, state) := rfl
  have happly : (core.sequenced sequence widget).applySequence.perform state =
      (callAll core.id widget sequence.calls).perform state :=
    Act.perform_bind_ok hwidget fun widget => callAll core.id widget sequence.calls
  rw [happly]
  exact callAll_makesUpTo core.id widget sequence.calls state

end Core

namespace ConfigSequence

/-- The sequence stands for these calls: they are what it flattens to, it counts as empty if there
are none, and an element with the sequence makes them in order up to the first that fails. -/
structure StandsFor (sequence : ConfigSequence) (made : List Call) : Prop where
  calls : sequence.calls = made
  isEmpty : sequence.isEmpty = true ↔ made = []
  applied : ∀ {σ : Type} [Toolkit σ] (core : Core) (widget : WidgetId) (state : σ),
    Core.MakesUpTo core.id widget made state
      ((core.sequenced sequence widget).applySequence.perform state)

private theorem standsFor_calls (sequence : ConfigSequence) :
    sequence.StandsFor sequence.calls where
  calls := rfl
  isEmpty := sequence.isEmpty_iff
  applied core widget state := core.applySequence_makesUpTo sequence widget state

/-- A value is accepted as a sequence exactly if all its leaves are mappings, is refused for the
shape of the first leaf that is none, and stands for the calls that its leaves declare, in order.
When a node is put together, whatever other steps stand between, its sequence stands for the calls
that it had and those of the items that are added, in order. -/
theorem flattens_in_order :
    (∀ value,
      ((∃ sequence, ofValue? value = .ok sequence) ↔
        ∀ leaf ∈ value.leaves, leaf.isMapping = true) ∧
      (∀ error, ofValue? value = .error error ↔
        ∃ leaf, value.leaves.find? (!·.isMapping) = some leaf ∧ error = .badItem leaf.shape) ∧
      ∀ sequence, ofValue? value = .ok sequence →
        sequence.StandsFor (value.leaves.flatMap Value.declaredCalls)) ∧
    ∀ (tree : NodeTree) (settings : List Setting),
      let items := settings.filterMap Setting.item?
      let later := (settings.foldl NodeTree.apply tree).spec
      (later.sequence = none ↔ tree.spec.sequence = none ∧ items = []) ∧
      ∀ sequence, later.sequence = some sequence →
        sequence.StandsFor (tree.spec.sequenceCalls ++ items.flatMap calls) := by
  refine ⟨fun value => ?_, fun tree settings => ?_⟩
  · have htakes := ofValue?_takes value
    have hnone : (∀ leaf ∈ value.leaves, leaf.isMapping = true) ↔
        value.leaves.find? (!·.isMapping) = none := by simp
    cases hread : ofValue? value with
    | error error =>
      rw [hread] at htakes
      obtain ⟨leaf, hleaf, rfl⟩ := htakes
      rw [hnone, hleaf]
      exact ⟨⟨nofun, nofun⟩, by simp [eq_comm], nofun⟩
    | ok sequence =>
      rw [hread] at htakes
      obtain ⟨hall, hcalls⟩ := htakes
      refine ⟨⟨fun _ => hall, fun _ => ⟨sequence, rfl⟩⟩, by simp [hnone.mp hall], ?_⟩
      rintro _ ⟨⟩
      exact hcalls ▸ standsFor_calls sequence
  · have hcalls := tree.sequenceCalls_foldl_apply settings
    refine ⟨tree.sequence_foldl_apply_eq_none_iff settings, fun sequence hsequence => ?_⟩
    rw [NodeSpec.sequenceCalls, hsequence] at hcalls
    exact hcalls ▸ standsFor_calls sequence

end ConfigSequence

end WidgetTree
