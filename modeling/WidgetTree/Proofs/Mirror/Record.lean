import WidgetTree.Forest.Snapshot
import WidgetTree.Proofs.Forest.Record

namespace WidgetTree

/-- Whether the value is a handle. -/
def Value.isHandle : Value → Bool
  | widget _ | stateVariable _ | command _ => true
  | _ => false

/-- No argument of the call is a handle. -/
def Call.HandleFree (made : Call) : Prop :=
  (∀ value ∈ made.args.positional, value.isHandle = false) ∧
    ∀ entry ∈ made.args.keyword, entry.2.isHandle = false

/-- How many widgets, state variables and elements had been made when a build began. Handles mirror
each other if they were the same to be given out since the two builds began. -/
structure Origin where
  widgets : Nat
  held : Nat
  elements : Nat

/-- The beginnings of two builds that are compared. -/
structure Mirror where
  left : Origin
  right : Origin

namespace Mirror

variable (mirror : Mirror)

/-- Widgets that were constructed as the same ones after the beginning. -/
def Widgets (first second : WidgetId) : Prop :=
  mirror.left.widgets < first.number ∧
    first.number + mirror.right.widgets = second.number + mirror.left.widgets

/-- State variables that were created as the same ones after the beginning. -/
def Variables (first second : VariableId) : Prop :=
  mirror.left.held < first.number ∧
    first.number + mirror.right.held = second.number + mirror.left.held

/-- Values that are the same, and no handles, or handles that mirror each other. -/
inductive Values : Value → Value → Prop
  | plain {value : Value} (hplain : value.isHandle = false) : Values value value
  | widget {first second : WidgetId} (hwidgets : mirror.Widgets first second) :
      Values (.widget first) (.widget second)
  | stateVariable {first second : VariableId} (hvariables : mirror.Variables first second) :
      Values (.stateVariable first) (.stateVariable second)

/-- Calls of the same method with arguments that mirror each other. -/
structure Calls (first second : Call) : Prop where
  method : first.method = second.method
  positional : List.Forall₂ mirror.Values first.args.positional second.args.positional
  keyword : Table.Matches mirror.Values first.args.keyword second.args.keyword

/-- Records that say the same of all that a snapshot shows, or that decides what calls do. -/
structure Records (first second : Record) : Prop where
  widgetType : first.widgetType = second.widgetType
  constructorArgs : Table.Matches mirror.Values first.constructorArgs second.constructorArgs
  attachment : first.attachment = second.attachment
  options : Table.Matches mirror.Values first.options second.options
  tabs : first.tabs.map Tab.text = second.tabs.map Tab.text

/-- Both fail with the same error, or both succeed with related results. -/
inductive Results {ε α β : Type} (related : α → β → Prop) : Except ε α → Except ε β → Prop
  | error (error : ε) : Results related (.error error) (.error error)
  | ok {one : α} {other : β} (hrelated : related one other) : Results related (.ok one) (.ok other)

variable {mirror}

/-- Both of two related options are empty, or they hold related things. -/
theorem rel_cases {α β : Type} {related : α → β → Prop} {first : Option α} {second : Option β}
    (hrel : Option.Rel related first second) :
    first = none ∧ second = none ∨
      ∃ one other, first = some one ∧ second = some other ∧ related one other := by
  cases hrel with
  | none => exact .inl ⟨rfl, rfl⟩
  | some hrelated => exact .inr ⟨_, _, rfl, rfl, hrelated⟩

/-- Results that mirror each other are both the same error, or both successes. -/
theorem Results.cases {ε α β : Type} {related : α → β → Prop} {first : Except ε α}
    {second : Except ε β} (hresults : Results related first second) :
    (∃ error, first = .error error ∧ second = .error error) ∨
      ∃ one other, first = .ok one ∧ second = .ok other ∧ related one other := by
  cases hresults with
  | error error => exact .inl ⟨error, rfl, rfl⟩
  | ok hrelated => exact .inr ⟨_, _, rfl, rfl, hrelated⟩

/-- What is looked up by related things is related. -/
theorem rel_bind {α β γ δ : Type} {related : α → β → Prop} {after : γ → δ → Prop}
    {first : Option α} {second : Option β} {next : α → Option γ} {following : β → Option δ}
    (hrel : Option.Rel related first second)
    (hnext : ∀ {one other}, related one other → Option.Rel after (next one) (following other)) :
    Option.Rel after (first.bind next) (second.bind following) := by
  cases hrel with
  | none => exact .none
  | some hrelated => exact hnext hrelated

private theorem rel_getElem? {α β : Type} {related : α → β → Prop} {items : List α}
    {others : List β} (hitems : List.Forall₂ related items others) (place : Nat) :
    Option.Rel related items[place]? others[place]? := by
  induction hitems generalizing place with
  | nil => exact .none
  | cons hrelated _ ih =>
    cases place with
    | zero => exact .some hrelated
    | succ place => exact ih place

/-- The first of related lists are related. -/
theorem rel_head? {α β : Type} {related : α → β → Prop} {items : List α} {others : List β}
    (hitems : List.Forall₂ related items others) :
    Option.Rel related items.head? others.head? := by
  rw [List.head?_eq_getElem?, List.head?_eq_getElem?]
  exact rel_getElem? hitems 0

section Handles

variable {first second other paired : WidgetId} {handle twin shared sharedTwin : VariableId}

/-- Mirroring is one to one. -/
theorem Widgets.eq_iff (hwidgets : mirror.Widgets first second)
    (hothers : mirror.Widgets other paired) : first = other ↔ second = paired := by
  obtain ⟨-, hdistance⟩ := hwidgets
  obtain ⟨-, hapart⟩ := hothers
  cases first; cases second; cases other; cases paired
  simp only [WidgetId.mk.injEq] at hdistance hapart ⊢
  omega

/-- State variables are the same on the one side if they are on the other. -/
theorem Variables.eq_iff (hvariables : mirror.Variables handle twin)
    (hothers : mirror.Variables shared sharedTwin) : handle = shared ↔ twin = sharedTwin := by
  obtain ⟨-, hdistance⟩ := hvariables
  obtain ⟨-, hapart⟩ := hothers
  cases handle; cases twin; cases shared; cases sharedTwin
  simp only [VariableId.mk.injEq] at hdistance hapart ⊢
  omega

end Handles

namespace Values

variable {first second other paired : Value}

private theorem display_eq (hvalues : mirror.Values first second) :
    first.display = second.display := by
  cases hvalues <;> rfl

private theorem string?_eq (hvalues : mirror.Values first second) :
    first.string? = second.string? := by
  cases hvalues <;> rfl

/-- A text is looked for alike on both sides. -/
theorem bind_string? {found missing : Option Value}
    (hvalues : Option.Rel mirror.Values found missing) :
    found.bind Value.string? = missing.bind Value.string? := by
  cases hvalues with
  | none => rfl
  | some hvalues => exact hvalues.string?_eq

/-- Values that mirror each other are widgets that do, or neither is a widget. -/
theorem widget? (hvalues : mirror.Values first second) :
    Option.Rel mirror.Widgets first.widget? second.widget? := by
  cases hvalues with
  | plain hplain => cases first <;> first | exact .none | cases hplain
  | widget hwidgets => exact .some hwidgets
  | stateVariable => exact .none

/-- Values that mirror each other are state variables that do, or neither is one. -/
theorem stateVariable? (hvalues : mirror.Values first second) :
    Option.Rel mirror.Variables first.stateVariable? second.stateVariable? := by
  cases hvalues with
  | plain hplain => cases first <;> first | exact .none | cases hplain
  | widget => exact .none
  | stateVariable hvariables => exact .some hvariables

/-- A handle is not the same as anything else. -/
theorem same_of_isHandle {value : Value} (hplain : value.isHandle = false)
    (hhandle : first.isHandle = true) : value.same first = false ∧ first.same value = false := by
  cases first <;> cases hhandle <;> cases value <;> simp_all [Value.isHandle, Value.same]

/-- Values are compared alike on both sides. -/
theorem same_eq (hvalues : mirror.Values first second) (hothers : mirror.Values other paired) :
    first.same other = second.same paired := by
  cases hvalues with
  | plain hplain =>
    cases hothers with
    | plain => rfl
    | widget | stateVariable =>
      rw [(same_of_isHandle hplain rfl).1, (same_of_isHandle hplain rfl).1]
  | widget hwidgets =>
    cases hothers with
    | plain hplain => rw [(same_of_isHandle hplain rfl).2, (same_of_isHandle hplain rfl).2]
    | widget hpaired => simp [Value.same, hwidgets.eq_iff hpaired]
    | stateVariable => simp [Value.same]
  | stateVariable hvariables =>
    cases hothers with
    | plain hplain => rw [(same_of_isHandle hplain rfl).2, (same_of_isHandle hplain rfl).2]
    | widget => simp [Value.same]
    | stateVariable hpaired => simp [Value.same, hvariables.eq_iff hpaired]

/-- Values that are no handles mirror themselves. -/
theorem matches_self {fields : Fields Value}
    (hplain : ∀ entry ∈ fields, entry.2.isHandle = false) :
    Table.Matches mirror.Values fields fields :=
  List.forall₂_same.mpr fun entry hentry => ⟨rfl, .plain (hplain entry hentry)⟩

end Values

/-- A call without handles mirrors itself. -/
theorem Calls.self {made : Call} (hfree : made.HandleFree) : mirror.Calls made made where
  method := rfl
  positional := List.forall₂_same.mpr fun value hvalue => .plain (hfree.1 value hvalue)
  keyword := Values.matches_self hfree.2

namespace Records

variable {first second : Record} (hrecords : mirror.Records first second)
include hrecords

/-- Records that mirror each other have options that do. -/
theorem option? (name : String) :
    Option.Rel mirror.Values (first.option? name) (second.option? name) := by
  have hoptions := hrecords.options.get? name
  have hargs := hrecords.constructorArgs.get? name
  rw [Record.option?, Record.option?]
  obtain ⟨hfirst, hsecond⟩ | ⟨one, other, hfirst, hsecond, hvalues⟩ := rel_cases hoptions
  · rw [hfirst, hsecond, Option.none_or, Option.none_or]
    exact hargs
  · rw [hfirst, hsecond]
    exact .some hvalues

/-- A value that counts where an option is missing mirrors itself. -/
theorem option_getD (name : String) {missing : Value} (hplain : missing.isHandle = false) :
    mirror.Values ((first.option? name).getD missing) ((second.option? name).getD missing) := by
  obtain ⟨hfirst, hsecond⟩ | ⟨one, other, hfirst, hsecond, hvalues⟩ :=
    rel_cases (hrecords.option? name)
  · rw [hfirst, hsecond]
    exact .plain hplain
  · rw [hfirst, hsecond]
    exact hvalues

private theorem optionNames_eq : first.optionNames = second.optionNames := by
  have hhas : first.constructorArgs.has = second.constructorArgs.has := by
    funext name
    rw [Table.has, Table.has]
    obtain ⟨hfirst, hsecond⟩ | ⟨one, other, hfirst, hsecond, -⟩ :=
      rel_cases (hrecords.constructorArgs.get? name)
    · rw [hfirst, hsecond]
    · rw [hfirst, hsecond]
      rfl
  rw [Record.optionNames, Record.optionNames, hrecords.constructorArgs.keys_eq,
    hrecords.options.keys_eq, hhas]

/-- Snapshots do not tell records that mirror each other apart. -/
theorem describe_eq : first.describe = second.describe := by
  have hoptions (name : String) : ((first.option? name).getD .null).display =
      ((second.option? name).getD .null).display :=
    (hrecords.option_getD name rfl).display_eq
  have htabs : first.tabs.map (fun tab => Text.quote tab.text) =
      second.tabs.map (fun tab => Text.quote tab.text) := by
    have hquoted := congrArg (List.map Text.quote) hrecords.tabs
    rwa [List.map_map, List.map_map] at hquoted
  have hlength := congrArg List.length hrecords.tabs
  rw [List.length_map, List.length_map] at hlength
  rw [Record.describe, Record.describe, hrecords.widgetType, hrecords.attachment,
    hrecords.optionNames_eq]
  simp only [hoptions]
  cases hfirst : first.tabs with
  | nil =>
    rw [hfirst] at hlength
    rw [List.length_eq_zero_iff.mp hlength.symm]
  | cons tab rest =>
    cases hsecond : second.tabs with
    | nil =>
      rw [hfirst, hsecond] at hlength
      cases hlength
    | cons other others =>
      rw [hfirst, hsecond] at htabs
      dsimp only
      rw [htabs]

/-- Whatever a method does to records that mirror each other, they do so afterwards. -/
theorem perform {made paired : Call} (hcalls : mirror.Calls made paired) (behaviour : Behaviour) :
    Results (fun one other => mirror.Records one.2 other.2) (first.perform behaviour made)
      (second.perform behaviour paired) := by
  obtain ⟨method, positional, keyword⟩ := made
  obtain ⟨same, others, keywords⟩ := paired
  obtain ⟨rfl, hpositional, hkeyword⟩ := hcalls
  dsimp only at hpositional hkeyword
  -- Text and items are no part of what mirrors, nor is what a method answers.
  have hkept (text other : String) (items more : List Value) :
      mirror.Records { first with text, items } { second with text := other, items := more } :=
    ⟨hrecords.widgetType, hrecords.constructorArgs, hrecords.attachment, hrecords.options,
      hrecords.tabs⟩
  have hhead := rel_head? hpositional
  unfold Record.perform
  dsimp only
  cases behaviour with
  | configure =>
    dsimp only
    cases hpositional with
    | nil => exact .ok ⟨hrecords.widgetType, hrecords.constructorArgs, hrecords.attachment,
        hrecords.options.insertAll hkeyword, hrecords.tabs⟩
    | cons => exact .error _
  | optionValue =>
    dsimp only
    rw [Values.bind_string? hhead]
    cases others.head?.bind Value.string? with
    | none => exact .error _
    | some name => exact .ok hrecords
  | optionNames => exact .ok hrecords
  | windowOption =>
    dsimp only
    cases hpositional with
    | nil => exact .ok hrecords
    | cons hvalues _ => exact .ok ⟨hrecords.widgetType, hrecords.constructorArgs,
        hrecords.attachment, hrecords.options.insert _ hvalues, hrecords.tabs⟩
  | addTab =>
    dsimp only
    obtain ⟨hfirst, hsecond⟩ | ⟨page, other, hfirst, hsecond, -⟩ :=
      rel_cases (rel_bind hhead fun hvalues => hvalues.widget?)
    · rw [hfirst, hsecond]
      exact .error _
    · rw [hfirst, hsecond]
      refine .ok ⟨hrecords.widgetType, hrecords.constructorArgs, hrecords.attachment,
        hrecords.options, ?_⟩
      simp only [List.map_append, hrecords.tabs, List.map_cons, List.map_nil,
        Values.bind_string? (hkeyword.get? "text")]
  | insertText =>
    dsimp only
    rw [Values.bind_string? (rel_getElem? hpositional 1)]
    cases others[1]?.bind Value.string? with
    | none => exact .error _
    | some text => exact .ok (hkept _ _ _ _)
  | insertItems =>
    cases hpositional with
    | nil => exact .error _
    | cons => exact .ok (hkept _ _ _ _)
  | deleteText | deleteItems => exact .ok (hkept _ _ _ _)
  | listTabs | tellText | tellItem | countItems | check | checkAndFire | fire | ignore =>
    exact .ok hrecords

/-- A call that is noted on both sides changes nothing in that. -/
theorem noteCall (made paired : Call) :
    mirror.Records (Forest.noteCall made first) (Forest.noteCall paired second) :=
  ⟨hrecords.widgetType, hrecords.constructorArgs, hrecords.attachment, hrecords.options,
    hrecords.tabs⟩

end Records

end Mirror

end WidgetTree
