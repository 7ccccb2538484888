import WidgetTree.Proofs.Forest.Sprout
import WidgetTree.Proofs.Forest.Traversal
import WidgetTree.Proofs.Forest.Variable
import WidgetTree.Proofs.Mirror.Record

namespace WidgetTree

namespace Mirror

variable (mirror : Mirror)

/-- Widgets that mirror each other have records and lists that do, if they are live, and state
variables that mirror each other have values that do. -/
structure Forests (first second : Forest) : Prop where
  constructed : mirror.left.widgets ≤ first.constructed ∧
    first.constructed + mirror.right.widgets = second.constructed + mirror.left.widgets
  created : mirror.left.held ≤ first.heldValues.length ∧
    first.heldValues.length + mirror.right.held = second.heldValues.length + mirror.left.held
  records : ∀ {widget twin}, mirror.Widgets widget twin →
    Option.Rel mirror.Records (first.record? widget) (second.record? twin)
  children : ∀ {widget twin}, mirror.Widgets widget twin →
    List.Forall₂ mirror.Widgets (first.children widget) (second.children twin)
  values : ∀ {handle twin}, mirror.Variables handle twin →
    Option.Rel mirror.Values (first.valueIn? handle) (second.valueIn? twin)

/-- Two parents are the same to all that mirrors, and neither refuses widgets unless the other
does. -/
structure Parents (first second : Forest) (parent outer : Option WidgetId) : Prop where
  same : ∀ {widget twin}, mirror.Widgets widget twin →
    (parent = some widget ↔ outer = some twin)
  dead : parent.any (!first.contains ·) = outer.any (!second.contains ·)

/-- Both operations fail with the same error or both succeed, and leave forests that mirror each
other. -/
structure Outcomes {α β : Type} (first : Outcome Forest α) (second : Outcome Forest β) : Prop where
  results : Results (fun _ _ => True) first.1 second.1
  forests : mirror.Forests first.2 second.2

variable {mirror}

/-- Outcomes that mirror each other are both failures with one error, or both successes. -/
theorem Outcomes.cases {α β : Type} {first : Outcome Forest α} {second : Outcome Forest β}
    (houtcomes : mirror.Outcomes first second) :
    (∃ error left right, first = (.error error, left) ∧ second = (.error error, right) ∧
      mirror.Forests left right) ∨
    ∃ one other left right, first = (.ok one, left) ∧ second = (.ok other, right) ∧
      mirror.Forests left right := by
  obtain ⟨firstResult, left⟩ := first
  obtain ⟨secondResult, right⟩ := second
  obtain ⟨hresults, hforests⟩ := houtcomes
  obtain ⟨error, hfirst, hsecond⟩ | ⟨one, other, hfirst, hsecond, -⟩ := hresults.cases
  · exact .inl ⟨error, left, right, congrArg (·, left) hfirst, congrArg (·, right) hsecond,
      hforests⟩
  · exact .inr ⟨one, other, left, right, congrArg (·, left) hfirst, congrArg (·, right) hsecond,
      hforests⟩

/-- Parents that were there at the beginnings are none of what mirrors. -/
theorem Parents.outside {first second : Forest} {parent outer : Option WidgetId}
    (hfirst : first.Sound) (hsecond : second.Sound)
    (hleft : first.constructed ≤ mirror.left.widgets)
    (hright : second.constructed ≤ mirror.right.widgets)
    (hparent : ∀ widget ∈ parent, widget ∈ first.live)
    (houter : ∀ widget ∈ outer, widget ∈ second.live) :
    mirror.Parents first second parent outer where
  same := by
    rintro widget twin ⟨hnew, hdistance⟩
    constructor
    · rintro rfl
      have hissued := (hfirst.issued widget (hparent widget rfl)).2
      omega
    · rintro rfl
      have hissued := (hsecond.issued twin (houter twin rfl)).2
      omega
  dead := by
    have hnone {forest : Forest} {parent : Option WidgetId}
        (hlive : ∀ widget ∈ parent, widget ∈ forest.live) :
        parent.any (!forest.contains ·) = false := by
      cases parent with
      | none => rfl
      | some widget =>
        rw [Option.any_some, Forest.contains_iff.mpr (hlive widget rfl)]
        rfl
    rw [hnone hparent, hnone houter]

/-- Where the beginnings are two forests as they are, these mirror each other: nothing has come to
either. -/
theorem Forests.begin {first second : Forest} (hfirst : first.Sound) (hsecond : second.Sound)
    (left right : Nat) :
    Forests ⟨⟨first.constructed, first.heldValues.length, left⟩,
      ⟨second.constructed, second.heldValues.length, right⟩⟩ first second := by
  have hunborn {widget twin : WidgetId} (hnew : first.constructed < widget.number)
      (hdistance : widget.number + second.constructed = twin.number + first.constructed) :
      widget ∉ first.live ∧ twin ∉ second.live := by
    constructor
    · intro hlive
      have hissued := hfirst.issued widget hlive
      omega
    · intro hlive
      have hissued := hsecond.issued twin hlive
      omega
  refine ⟨⟨Nat.le_refl _, Nat.add_comm _ _⟩, ⟨Nat.le_refl _, Nat.add_comm _ _⟩, ?_, ?_, ?_⟩
  · rintro widget twin ⟨hnew, hdistance⟩
    obtain ⟨hwidget, htwin⟩ := hunborn hnew hdistance
    rw [Forest.record?_eq_none_iff.mpr hwidget, Forest.record?_eq_none_iff.mpr htwin]
    exact .none
  · rintro widget twin ⟨hnew, hdistance⟩
    obtain ⟨hwidget, htwin⟩ := hunborn hnew hdistance
    rw [hfirst.children_of_not_mem hwidget, hsecond.children_of_not_mem htwin]
    exact .nil
  · rintro handle twin ⟨hnew, hdistance⟩
    dsimp only at hnew hdistance
    rw [Forest.valueIn?_of_length_lt hnew, Forest.valueIn?_of_length_lt (by omega)]
    exact .none

namespace Forests

variable {first second : Forest} (hforests : mirror.Forests first second)
include hforests

/-- The next widgets mirror each other. -/
theorem next : mirror.Widgets first.next second.next := by
  obtain ⟨hle, hdistance⟩ := hforests.constructed
  rw [Widgets, Forest.number_next, Forest.number_next]
  omega

/-- Of widgets that mirror each other both are live or neither is. -/
theorem contains_eq {widget twin : WidgetId} (hwidgets : mirror.Widgets widget twin) :
    first.contains widget = second.contains twin := by
  rw [Forest.contains, Forest.contains]
  obtain ⟨hfirst, hsecond⟩ | ⟨one, other, hfirst, hsecond, -⟩ :=
    rel_cases (hforests.records hwidgets)
  · rw [hfirst, hsecond]
  · rw [hfirst, hsecond]
    rfl

private theorem classOf_eq {widget twin : WidgetId} (hwidgets : mirror.Widgets widget twin) :
    first.classOf widget = second.classOf twin := by
  rw [Forest.classOf, Forest.classOf]
  obtain ⟨hfirst, hsecond⟩ | ⟨one, other, hfirst, hsecond, hrecords⟩ :=
    rel_cases (hforests.records hwidgets)
  · rw [hfirst, hsecond]
  · rw [hfirst, hsecond]
    dsimp only
    rw [hrecords.widgetType]

/-- Parents that mirror each other are the same to all that mirrors. -/
theorem parents {widget twin : WidgetId} (hwidgets : mirror.Widgets widget twin) :
    mirror.Parents first second (some widget) (some twin) where
  same hothers := by
    rw [Option.some.injEq, Option.some.injEq]
    exact hwidgets.eq_iff hothers
  dead := by rw [Option.any_some, Option.any_some, hforests.contains_eq hwidgets]

/-- The journal and the commands that were fired are no part of what mirrors. -/
theorem log (event paired : Event) : mirror.Forests (first.log event) (second.log paired) :=
  ⟨hforests.constructed, hforests.created, hforests.records, hforests.children, hforests.values⟩

private theorem fireBound (record paired : Record) :
    mirror.Forests (first.fireBound record) (second.fireBound paired) := by
  have hfired (forest : Forest) (record : Record) :
      ∃ fired, forest.fireBound record = { forest with fired } := by
    unfold Forest.fireBound Forest.fireCommand
    split
    · exact ⟨forest.fired, rfl⟩
    · split
      · exact ⟨_, rfl⟩
      · exact ⟨forest.fired, rfl⟩
  obtain ⟨fired, hfirst⟩ := hfired first record
  obtain ⟨others, hsecond⟩ := hfired second paired
  rw [hfirst, hsecond]
  exact ⟨hforests.constructed, hforests.created, hforests.records, hforests.children,
    hforests.values⟩

/-- What is done to the records of both widgets is done to records that mirror each other. -/
theorem modify {widget twin : WidgetId} (hwidgets : mirror.Widgets widget twin)
    {change counterpart : Record → Record}
    (hchange : ∀ {record paired}, mirror.Records record paired →
      mirror.Records (change record) (counterpart paired)) :
    mirror.Forests (first.modify widget change) (second.modify twin counterpart) where
  constructed := hforests.constructed
  created := hforests.created
  children := hforests.children
  values := hforests.values
  records := by
    intro other paired hothers
    have hrecords := hforests.records hothers
    rw [Forest.record?_modify, Forest.record?_modify]
    by_cases hother : other = widget
    · rw [if_pos hother, if_pos ((hothers.eq_iff hwidgets).mp hother)]
      obtain ⟨hfirst, hsecond⟩ | ⟨one, same, hfirst, hsecond, hsame⟩ := rel_cases hrecords
      · rw [hfirst, hsecond]
        exact .none
      · rw [hfirst, hsecond]
        exact .some (hchange hsame)
    · rw [if_neg hother, if_neg fun heq => hother ((hothers.eq_iff hwidgets).mpr heq)]
      exact hrecords

section Variables

/-- Variables created on both sides mirror each other, as far as their values do. -/
theorem createVariable {value paired : Value} (hvalues : mirror.Values value paired) :
    mirror.Variables (first.createVariable value).1 (second.createVariable paired).1 ∧
      mirror.Forests (first.createVariable value).2 (second.createVariable paired).2 := by
  obtain ⟨hle, hdistance⟩ := hforests.created
  have hnew : mirror.Variables (first.createVariable value).1 (second.createVariable paired).1 := by
    rw [Variables, Forest.createVariable, Forest.createVariable]
    dsimp only
    omega
  refine ⟨hnew, ⟨hforests.constructed, ?_, hforests.records, hforests.children, ?_⟩⟩
  · simp only [Forest.createVariable, List.length_append, List.length_singleton]
    omega
  · intro handle twin hvariables
    rw [Forest.valueIn?_createVariable, Forest.valueIn?_createVariable]
    by_cases hhandle : handle = (first.createVariable value).1
    · rw [if_pos hhandle, if_pos ((hvariables.eq_iff hnew).mp hhandle)]
      exact .some hvalues
    · rw [if_neg hhandle, if_neg fun heq => hhandle ((hvariables.eq_iff hnew).mpr heq)]
      exact hforests.values hvariables

private theorem writes {handle twin : VariableId} (hvariables : mirror.Variables handle twin)
    {value paired : Value} (hvalues : mirror.Values value paired) {left right : Forest}
    (hleft : Forest.Writes handle value first left)
    (hright : Forest.Writes twin paired second right) : mirror.Forests left right where
  constructed := by
    rw [hleft.constructed, hright.constructed]
    exact hforests.constructed
  created := by
    rw [hleft.count, hright.count]
    exact hforests.created
  records hwidgets := by
    rw [hleft.records, hright.records]
    exact hforests.records hwidgets
  children hwidgets := by
    rw [hleft.children, hright.children]
    exact hforests.children hwidgets
  values := by
    intro other same hothers
    rw [hleft.values, hright.values]
    by_cases hother : other = handle
    · rw [if_pos hother, if_pos ((hothers.eq_iff hvariables).mp hother)]
      exact .some hvalues
    · rw [if_neg hother, if_neg fun heq => hother ((hothers.eq_iff hvariables).mpr heq)]
      exact hforests.values hothers

/-- Check buttons that mirror each other write to variables that do, or fail since the variables
are gone. -/
theorem check {record paired : Record} (hrecords : mirror.Records record paired)
    (on : Option Bool) : mirror.Outcomes (first.check record on) (second.check paired on) := by
  have hshared := rel_bind (hrecords.option? "variable") fun hvalues => hvalues.stateVariable?
  unfold Forest.check
  obtain ⟨hfirst, hsecond⟩ | ⟨handle, twin, hfirst, hsecond, hvariables⟩ := rel_cases hshared
  · rw [hfirst, hsecond]
    exact ⟨.ok trivial, hforests⟩
  · rw [hfirst, hsecond]
    dsimp only
    obtain ⟨hnone, hnothing⟩ | ⟨held, same, hheld, hsame, hvalues⟩ :=
      rel_cases (hforests.values hvariables)
    · rw [hnone, hnothing]
      exact ⟨.error _, hforests⟩
    · have hon := hrecords.option_getD "onvalue" (rfl : (Value.int 1).isHandle = false)
      have hoff := hrecords.option_getD "offvalue" (rfl : (Value.int 0).isHandle = false)
      rw [hheld, hsame]
      dsimp only
      rw [hvalues.same_eq hon]
      split
      · obtain ⟨left, hleft, hwrites⟩ := Forest.writeVariable_of_held hheld _
        obtain ⟨right, hright, hpaired⟩ := Forest.writeVariable_of_held hsame _
        rw [hleft, hright]
        exact ⟨.ok trivial, hforests.writes hvariables hon hwrites hpaired⟩
      · obtain ⟨left, hleft, hwrites⟩ := Forest.writeVariable_of_held hheld _
        obtain ⟨right, hright, hpaired⟩ := Forest.writeVariable_of_held hsame _
        rw [hleft, hright]
        exact ⟨.ok trivial, hforests.writes hvariables hoff hwrites hpaired⟩

end Variables

section Calls

variable {widget twin : WidgetId} (hwidgets : mirror.Widgets widget twin)
include hwidgets

private theorem performLocally {record paired : Record} (hrecords : mirror.Records record paired)
    {made counterpart : Call} (hcalls : mirror.Calls made counterpart) (behaviour : Behaviour) :
    mirror.Outcomes (first.performLocally widget record behaviour made)
      (second.performLocally twin paired behaviour counterpart) := by
  unfold Forest.performLocally
  obtain ⟨error, hfirst, hsecond⟩ | ⟨one, other, hfirst, hsecond, hafter⟩ :=
    (hrecords.perform hcalls behaviour).cases
  · rw [hfirst, hsecond]
    exact ⟨.error error, hforests⟩
  · rw [hfirst, hsecond]
    exact ⟨.ok trivial, hforests.modify hwidgets fun _ => hafter⟩

/-- A call that was taken note of on both sides is carried out alike. -/
theorem carryOut {record paired : Record} (hrecords : mirror.Records record paired)
    {made counterpart : Call} (hcalls : mirror.Calls made counterpart) (behaviour : Behaviour) :
    mirror.Outcomes (first.carryOut widget record behaviour made)
      (second.carryOut twin paired behaviour counterpart) := by
  have hlocally := hforests.performLocally hwidgets hrecords hcalls
  unfold Forest.carryOut
  cases behaviour with
  | check on => exact hforests.check hrecords on
  | checkAndFire =>
    dsimp only
    obtain ⟨error, left, right, hfirst, hsecond, hafter⟩ |
      ⟨one, other, left, right, hfirst, hsecond, hafter⟩ := (hforests.check hrecords none).cases
    · rw [hfirst, hsecond]
      exact ⟨.error error, hafter⟩
    · rw [hfirst, hsecond]
      exact ⟨.ok trivial, hafter.fireBound record paired⟩
  | fire => exact ⟨.ok trivial, hforests.fireBound record paired⟩
  | addTab =>
    dsimp only
    have hpages := rel_bind (rel_head? hcalls.positional) fun hvalues => hvalues.widget?
    obtain ⟨hfirst, hsecond⟩ | ⟨page, other, hfirst, hsecond, hpage⟩ := rel_cases hpages
    · rw [hfirst, hsecond, Option.any_none]
      exact hlocally .addTab
    · rw [hfirst, hsecond, Option.any_some, Option.any_some, hforests.contains_eq hpage]
      split
      · exact ⟨.error _, hforests⟩
      · exact hlocally .addTab
  | _ => exact hlocally _

/-- A method is called alike on both sides. -/
theorem invoke {made counterpart : Call} (hcalls : mirror.Calls made counterpart) :
    mirror.Outcomes (first.invoke widget made) (second.invoke twin counterpart) := by
  rw [Forest.invoke, Forest.invoke, hforests.classOf_eq hwidgets, hcalls.method]
  cases second.classOf twin with
  | error error => exact ⟨.error error, hforests⟩
  | ok cls =>
    obtain ⟨hfirst, hsecond⟩ | ⟨record, paired, hfirst, hsecond, hrecords⟩ :=
      rel_cases (hforests.records hwidgets)
    · rw [hfirst, hsecond]
      exact ⟨.error _, hforests⟩
    · rw [hfirst, hsecond]
      dsimp only
      split
      · have hnoted : mirror.Forests
            ((first.modify widget (Forest.noteCall made)).log
              (.invoked widget counterpart.method))
            ((second.modify twin (Forest.noteCall counterpart)).log
              (.invoked twin counterpart.method)) :=
          (hforests.modify hwidgets fun hsame => hsame.noteCall made counterpart).log _ _
        exact hnoted.carryOut hwidgets (hrecords.noteCall made counterpart) hcalls _
      · exact ⟨.error _, hforests⟩

/-- A widget is attached alike on both sides. -/
theorem attach (strategy : String) (args : Fields Value) :
    mirror.Outcomes (first.attach widget strategy args) (second.attach twin strategy args) := by
  rw [Forest.attach, Forest.attach, hforests.classOf_eq hwidgets]
  cases second.classOf twin with
  | error error => exact ⟨.error error, hforests⟩
  | ok cls =>
    dsimp only
    split
    · refine ⟨.ok trivial, (hforests.modify hwidgets fun hrecords => ?_).log _ _⟩
      exact ⟨hrecords.widgetType, hrecords.constructorArgs, rfl, hrecords.options, hrecords.tabs⟩
    · exact ⟨.error _, hforests⟩

/-- Assigning an attribute to widgets that mirror each other has the same outcome. -/
theorem setAttribute (name : String) (value : Value) :
    mirror.Outcomes (first.setAttribute widget name value)
      (second.setAttribute twin name value) := by
  rw [Forest.setAttribute, Forest.setAttribute, hforests.contains_eq hwidgets]
  split
  · refine ⟨.ok trivial, (hforests.modify hwidgets fun hrecords => ?_).log _ _⟩
    exact ⟨hrecords.widgetType, hrecords.constructorArgs, hrecords.attachment, hrecords.options,
      hrecords.tabs⟩
  · exact ⟨.error _, hforests⟩

end Calls

section Construct

variable (hfirst : first.Sound) (hsecond : second.Sound) {parent outer : Option WidgetId}
include hfirst hsecond

/-- Widgets that are planted inside widgets that mirror each other, or outside all that does, mirror
each other. -/
theorem plant (hparents : mirror.Parents first second parent outer) (widgetType : String)
    {args : Fields Value} (hargs : ∀ entry ∈ args, entry.2.isHandle = false) :
    mirror.Forests (first.plant widgetType parent args) (second.plant widgetType outer args) where
  constructed := by
    have hcounts := hforests.constructed
    rw [Forest.constructed_plant, Forest.constructed_plant]
    omega
  created := by
    rw [Forest.heldValues_plant, Forest.heldValues_plant]
    exact hforests.created
  records := by
    intro widget twin hwidgets
    have hnew := hwidgets.eq_iff hforests.next
    rw [Forest.record?_plant widgetType parent args hfirst,
      Forest.record?_plant widgetType outer args hsecond]
    by_cases hwidget : widget = first.next
    · rw [if_pos hwidget, if_pos (hnew.mp hwidget)]
      exact .some ⟨rfl, Values.matches_self hargs, rfl, .nil, rfl⟩
    · rw [if_neg hwidget, if_neg fun heq => hwidget (hnew.mpr heq)]
      exact hforests.records hwidgets
  children := by
    intro widget twin hwidgets
    have hparent := hparents.same hwidgets
    rw [Forest.children_plant widgetType parent args hfirst,
      Forest.children_plant widgetType outer args hsecond]
    refine List.rel_append (hforests.children hwidgets) ?_
    by_cases hinside : parent = some widget
    · rw [if_pos hinside, if_pos (hparent.mp hinside)]
      exact .cons hforests.next .nil
    · rw [if_neg hinside, if_neg fun heq => hinside (hparent.mpr heq)]
      exact .nil
  values := by
    intro handle twin hvariables
    rw [Forest.valueIn?, Forest.valueIn?, Forest.heldValues_plant, Forest.heldValues_plant]
    exact hforests.values hvariables

/-- All that constructing on both sides can do: it fails alike, or plants the next widgets. -/
theorem construct_cases (hparents : mirror.Parents first second parent outer)
    (widgetType : String) {args : Fields Value}
    (hargs : ∀ entry ∈ args, entry.2.isHandle = false) :
    (∃ error, first.construct widgetType parent args = (.error error, first) ∧
      second.construct widgetType outer args = (.error error, second)) ∨
    (first.construct widgetType parent args =
        (.ok first.next, first.plant widgetType parent args) ∧
      second.construct widgetType outer args =
        (.ok second.next, second.plant widgetType outer args) ∧
      mirror.Forests (first.plant widgetType parent args)
        (second.plant widgetType outer args)) := by
  have hplanted := hforests.plant hfirst hsecond hparents widgetType hargs
  unfold Forest.construct
  rw [hparents.dead]
  split
  · exact .inl ⟨_, rfl, rfl⟩
  · split
    · exact .inl ⟨_, rfl, rfl⟩
    · exact .inr ⟨rfl, rfl, hplanted⟩

end Construct

section Rendering

/-- What is written of widgets in one forest is written of those that mirror them in the other. -/
theorem renders {level : Nat} {widgets twins : List WidgetId} {lines : List String}
    (hrenders : first.Renders level widgets lines)
    (hwidgets : List.Forall₂ mirror.Widgets widgets twins) : second.Renders level twins lines := by
  induction hrenders generalizing twins with
  | done level =>
    cases hwidgets
    exact .done level
  | skip hdead tail ih =>
    obtain ⟨twin, others, hpair, hothers, rfl⟩ := List.forall₂_cons_left_iff.mp hwidgets
    obtain ⟨-, hsecond⟩ | ⟨record, -, hrecord, -⟩ := rel_cases (hforests.records hpair)
    · exact .skip hsecond (ih hothers)
    · rw [hdead] at hrecord
      cases hrecord
  | @write level widget record rest below after hrecord inside tail ihInside ihTail =>
    obtain ⟨twin, others, hpair, hothers, rfl⟩ := List.forall₂_cons_left_iff.mp hwidgets
    obtain ⟨hnone, -⟩ | ⟨same, paired, hsame, hsecond, hrecords⟩ :=
      rel_cases (hforests.records hpair)
    · rw [hrecord] at hnone
      cases hnone
    · obtain rfl : record = same := Option.some.inj (hrecord.symm.trans hsame)
      have hline : Forest.lineAt level record = Forest.lineAt level paired := by
        rw [Forest.lineAt, Forest.lineAt, hrecords.describe_eq]
      rw [hline]
      exact .write hsecond (ihInside (hforests.children hpair)) (ihTail hothers)

/-- Subtrees that mirror each other have the same text. -/
theorem subtreeText_eq (hfirst : first.Sound) (hsecond : second.Sound) {widget twin : WidgetId}
    (hwidgets : mirror.Widgets widget twin) :
    first.subtreeText widget = second.subtreeText twin := by
  obtain ⟨lines, hlines, htext⟩ := Forest.exists_renders_subtreeText hfirst widget
  obtain ⟨others, hothers, hpaired⟩ := Forest.exists_renders_subtreeText hsecond twin
  have hsame := (hforests.renders hlines (.cons hwidgets .nil)).unique hothers
  rw [htext, hpaired, hsame]

end Rendering

end Forests

end Mirror

end WidgetTree
