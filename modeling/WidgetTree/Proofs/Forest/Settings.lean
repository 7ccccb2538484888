import WidgetTree.Proofs.Forest.Turn

namespace WidgetTree

/-- What the options of a widget were given by its constructor, and what they were configured with
after that, in order. -/
structure OptionHistory where
  constructed : Fields Value := []
  configured : Fields Value := []

namespace OptionHistory

def append (early late : OptionHistory) : OptionHistory :=
  ⟨early.constructed ++ late.constructed, early.configured ++ late.configured⟩

/-- The names that were given a value: those of the constructor first, and then the others in the
order in which they were first configured. -/
def names (history : OptionHistory) : List String :=
  history.constructed.keys ++
    history.configured.keys.eraseDups.filter (· ∉ history.constructed.keys)

/-- The value that was configured last under a name, or else that of the constructor. -/
def value? (history : OptionHistory) (name : String) : Option Value :=
  (Table.get? history.configured.reverse name).or (history.constructed.get? name)

end OptionHistory

/-- What a call that succeeds gives to the options of its widget. -/
def Call.settings (call : Call) : Fields Value :=
  match call.method with
  | "configure" | "config" => call.args.keyword
  | "title" | "geometry" => (call.args.positional.take 1).map (call.method, ·)
  | _ => []

namespace Forest

/-- What one request gives to the options of a widget. -/
def settingsBy (forest : Forest) (widget : WidgetId) : Request → OptionHistory
  | .construct widgetType parent args =>
    if (forest.construct widgetType parent args).1.toOption = some widget then ⟨args, []⟩ else {}
  | .invoke other call =>
    if other = widget ∧ (forest.invoke other call).1.isOk then ⟨[], call.settings⟩ else {}
  | _ => {}

/-- What requests, served in order, give to the options of a widget. -/
def optionHistory (forest : Forest) (widget : WidgetId) : List Request → OptionHistory
  | [] => {}
  | request :: rest =>
    (forest.settingsBy widget request).append ((forest.serve request).optionHistory widget rest)

end Forest

/-- A record holds what its options were given. -/
structure Record.Remembers (record : Record) (history : OptionHistory) : Prop where
  constructed : record.constructorArgs = history.constructed
  configured : record.options = Table.ofPairs history.configured

/-- A record has taken in what its options were given. -/
structure Record.TakesIn (record later : Record) (given : OptionHistory) : Prop where
  constructed : later.constructorArgs = record.constructorArgs ++ given.constructed
  configured : later.options = record.options.insertAll given.configured

private theorem Record.TakesIn.of_eq {record later : Record}
    (hargs : later.constructorArgs = record.constructorArgs)
    (hoptions : later.options = record.options) : record.TakesIn later {} :=
  ⟨hargs.trans (List.append_nil _).symm, hoptions⟩

private theorem Record.Remembers.takeIn {record later : Record} {history given : OptionHistory}
    (hremembers : record.Remembers history) (htakes : record.TakesIn later given) :
    later.Remembers (history.append given) where
  constructed := by
    rw [htakes.constructed, hremembers.constructed, OptionHistory.append]
  configured := by
    rw [htakes.configured, hremembers.configured, OptionHistory.append, Table.ofPairs,
      Table.ofPairs, ← Table.insertAll_append]

section Calls

/-- What a method that succeeds gives to the options of its widget. -/
def Behaviour.settings (behaviour : Behaviour) (call : Call) : Fields Value :=
  match behaviour with
  | configure => call.args.keyword
  | windowOption => (call.args.positional.take 1).map (call.method, ·)
  | _ => []

private theorem Record.options_of_perform {record later : Record} {behaviour : Behaviour}
    {call : Call}
    {answer : Value} (hperform : record.perform behaviour call = .ok (answer, later)) :
    later.options = record.options.insertAll (behaviour.settings call) := by
  unfold Record.perform at hperform
  dsimp only at hperform
  cases behaviour with
  | windowOption =>
    dsimp only at hperform
    split at hperform
    · next hargs =>
      cases hperform
      simp [Behaviour.settings, hargs]
    · next hargs =>
      cases hperform
      simp [Behaviour.settings, hargs]
  | _ =>
    dsimp only at hperform
    (try split at hperform) <;>
      first
      | cases hperform; rfl
      | cases hperform

/-- Only windows have methods for the options of windows. -/
theorem WidgetClass.window_of_hasMethod {cls : WidgetClass} (hcls : cls ∈ catalogue)
    {method : String} (hwindow : method = "title" ∨ method = "geometry")
    (hmethod : cls.hasMethod method = true) : cls.name = "Tk" ∨ cls.name = "Toplevel" := by
  have hall : ∀ method ∈ ["title", "geometry"], ∀ cls ∈ catalogue,
      cls.hasMethod method = true → cls.name = "Tk" ∨ cls.name = "Toplevel" := by
    decide
  exact hall method (by simpa using hwindow) cls hcls hmethod

/-- What an accepted call gives to options can be told without the class. -/
theorem Behaviour.settings_of {widgetType : String} {cls : WidgetClass} {call : Call}
    (hclass : WidgetClass.ofName? widgetType = some cls)
    (hmethod : cls.hasMethod call.method = true) :
    (of widgetType call.method).settings call = call.settings := by
  obtain ⟨method, args⟩ := call
  dsimp only at hmethod ⊢
  have hwindow : method = "title" ∨ method = "geometry" →
      widgetType = "Tk" ∨ widgetType = "Toplevel" := by
    rw [← WidgetClass.name_of_ofName? hclass]
    exact fun hnamed =>
      WidgetClass.window_of_hasMethod (List.mem_of_find?_eq_some hclass) hnamed hmethod
  simp only [Call.settings]
  split
  · simp [of, settings]
  · simp [of, settings]
  · rcases hwindow (.inl rfl) with rfl | rfl <;> rfl
  · rcases hwindow (.inr rfl) with rfl | rfl <;> rfl
  · next hconfigure hconfig htitle hgeometry =>
    -- no other method is one for options
    fun_cases of widgetType method <;> first | rfl | simp at hconfigure hconfig htitle hgeometry

end Calls

namespace Forest

section Run

variable {forest : Forest} {widget : WidgetId} {record later : Record}

private theorem optionHistory_append_singleton (forest : Forest) (widget : WidgetId)
    (early : List Request) (request : Request) :
    forest.optionHistory widget (early ++ [request]) =
      (forest.optionHistory widget early).append
        ((forest.serveAll early).settingsBy widget request) := by
  induction early generalizing forest with
  | nil => simp [optionHistory, OptionHistory.append, serveAll]
  | cons first rest ih =>
    rw [List.cons_append, optionHistory, optionHistory, ih]
    simp [OptionHistory.append, serveAll]

/-- A widget that was not constructed by then was given nothing. -/
theorem settingsBy_of_unissued (hsound : forest.Sound) {request : Request}
    (hunissued : (forest.serve request).constructed < widget.number) :
    forest.settingsBy widget request = {} := by
  cases request with
  | construct widgetType parent args =>
    rcases construct_cases widgetType parent args forest with
      ⟨error, hrefused⟩ | ⟨-, -, hplanted⟩
    · simp [settingsBy, hrefused, Except.toOption]
    · rw [serve, hplanted, constructed_plant] at hunissued
      have hnext : forest.next ≠ widget := by
        rintro rfl
        exact Nat.lt_irrefl _ hunissued
      simp [settingsBy, hplanted, Except.toOption, hnext]
  | invoke other call =>
    rw [settingsBy, if_neg]
    rintro ⟨rfl, hok⟩
    have hdead : other ∉ forest.live := fun hlive =>
      absurd ((hsound.issued other hlive).2.trans (le_constructed_serve forest _))
        (Nat.not_le_of_lt hunissued)
    rw [(refuses_of_not_mem hdead).invoke] at hok
    cases hok
  | _ => rfl

/-- What neither changes arguments nor options of a record leaves those of every live widget. -/
theorem takesIn_of_modify {other : WidgetId} {change : Record → Record} {event : Event}
    (hlater : ((forest.modify other change).log event).record? widget = some later)
    (hchange : ∀ record : Record, record.TakesIn (change record) {}) :
    ∃ record, forest.record? widget = some record ∧ record.TakesIn later {} := by
  rw [record?_log, record?_modify] at hlater
  split at hlater
  · obtain ⟨record, hrecord, rfl⟩ := Option.map_eq_some_iff.mp hlater
    exact ⟨record, hrecord, hchange record⟩
  · exact ⟨later, hlater, .of_eq rfl rfl⟩

/-- A call that succeeds gives the options of its widget what it is told, and one that fails gives
nothing. -/
theorem invoke_takesIn {other : WidgetId} {call : Call}
    (hlater : (forest.invoke other call).2.record? widget = some later) :
    ∃ record, forest.record? widget = some record ∧
      record.TakesIn later (forest.settingsBy widget (.invoke other call)) := by
  rw [settingsBy]
  rcases invoke_cases other call forest with
    ⟨-, error, hrefused⟩ | ⟨haccepts, record, -, hrecord, -⟩
  · rw [hrefused] at hlater ⊢
    rw [if_neg fun hdone => Bool.false_ne_true hdone.2]
    exact ⟨later, hlater, .of_eq rfl rfl⟩
  · by_cases hother : other = widget
    · subst hother
      obtain ⟨cls, hclass, hmethod⟩ := exists_class_of_accepts hrecord haccepts
      refine ⟨record, hrecord, ?_⟩
      have hperforms := invoke_performs hrecord haccepts
      generalize forest.invoke other call = outcome at hperforms hlater ⊢
      cases hperforms with
      | failed error hnoted =>
        obtain rfl := Option.some.inj (hnoted.symm.trans hlater)
        rw [if_neg fun hdone => Bool.false_ne_true hdone.2]
        exact .of_eq rfl rfl
      | done hperform hleft =>
        obtain rfl := Option.some.inj (hleft.symm.trans hlater)
        have hargs := (Record.kept_of_uncalled (Record.uncalled_of_perform hperform)).2.1
        have hoptions := Record.options_of_perform hperform
        rw [Behaviour.settings_of hclass hmethod] at hoptions
        rw [if_pos ⟨rfl, rfl⟩]
        exact ⟨hargs.trans (List.append_nil _).symm, hoptions⟩
    · rw [(invoke_spec other call forest).1.others widget (Ne.symm hother)] at hlater
      rw [if_neg fun hself => hother hself.1]
      exact ⟨later, hlater, .of_eq rfl rfl⟩

/-- A widget that is live after a request has taken in what the request gave to it, or has been
constructed by it. -/
theorem serve_takesIn (hsound : forest.Sound) (request : Request)
    (hlater : (forest.serve request).record? widget = some later) :
    (∃ record, forest.record? widget = some record ∧
      record.TakesIn later (forest.settingsBy widget request)) ∨
    (forest.constructed < widget.number ∧
      later.Remembers (forest.settingsBy widget request)) := by
  have hkept : forest.record? widget = some later →
      ∃ record, forest.record? widget = some record ∧ record.TakesIn later {} :=
    fun hrecord => ⟨later, hrecord, .of_eq rfl rfl⟩
  cases request with
  | construct widgetType parent args =>
    rw [settingsBy]
    rcases construct_cases widgetType parent args forest with
      ⟨error, hrefused⟩ | ⟨-, -, hplanted⟩
    · have hnone : (forest.construct widgetType parent args).1.toOption ≠ some widget := by
        simp [hrefused, Except.toOption]
      rw [serve, hrefused] at hlater
      rw [if_neg hnone]
      exact .inl (hkept hlater)
    · rw [serve, hplanted, record?_plant widgetType parent args hsound] at hlater
      have hissued : (forest.construct widgetType parent args).1.toOption = some forest.next := by
        rw [hplanted]
        rfl
      rw [hissued]
      split at hlater
      · next hnext =>
        cases hlater
        rw [hnext, if_pos rfl]
        exact .inr ⟨Nat.lt_succ_self _, rfl, rfl⟩
      · next hother =>
        rw [if_neg fun hnext => hother (Option.some.inj hnext).symm]
        exact .inl (hkept hlater)
  | attach other strategy args =>
    rcases attach_cases other strategy args forest with ⟨error, hrefused⟩ | hattached
    · rw [serve, hrefused] at hlater
      exact .inl (hkept hlater)
    · rw [serve, hattached] at hlater
      exact .inl (takesIn_of_modify hlater fun _ => .of_eq rfl rfl)
  | setAttribute other name value =>
    rcases setAttribute_cases other name value forest with ⟨error, hrefused⟩ | hassigned
    · rw [serve, hrefused] at hlater
      exact .inl (hkept hlater)
    · rw [serve, hassigned] at hlater
      exact .inl (takesIn_of_modify hlater fun _ => .of_eq rfl rfl)
  | invoke other call => exact .inl (invoke_takesIn hlater)
  | destroy gone =>
    by_cases hlive : gone ∈ forest.live
    · obtain ⟨felled, hdestroy, hfelled⟩ := hsound.destroy_felled hlive
      rw [serve, hdestroy] at hlater
      rw [hfelled.record?_of_mem_live (mem_live_iff.mpr ⟨later, hlater⟩)] at hlater
      exact .inl (hkept hlater)
    · rw [serve, destroy_of_not_mem hlive] at hlater
      exact .inl (hkept hlater)
  | createVariable | registerCommand => exact .inl (hkept hlater)
  | readVariable | writeVariable | fireCommand =>
    simp only [serve, readVariable, writeVariable, fireCommand] at hlater
    split at hlater <;> exact .inl (hkept hlater)

/-- However many requests are served, the record of a live widget holds what they gave it. -/
theorem remembers_serveAll (requests : List Request) :
    (∀ widget record, (empty.serveAll requests).record? widget = some record →
      record.Remembers (empty.optionHistory widget requests)) ∧
    ∀ widget : WidgetId, (empty.serveAll requests).constructed < widget.number →
      empty.optionHistory widget requests = {} := by
  induction requests using List.reverseRecOn with
  | nil =>
    refine ⟨fun widget record hrecord => ?_, fun _ _ => rfl⟩
    simp [serveAll, empty, record?, widgets, Table.get?] at hrecord
  | append_singleton early request ih =>
    have hsound := (serveAll_keeps sound_empty rfl early).1
    obtain ⟨hremembered, hnothing⟩ := ih
    constructor
    · intro widget later hlater
      rw [optionHistory_append_singleton]
      rw [serveAll_append_singleton] at hlater
      rcases serve_takesIn hsound request hlater with
        ⟨record, hrecord, htakes⟩ | ⟨hunissued, hremembers⟩
      · exact (hremembered widget record hrecord).takeIn htakes
      · rw [hnothing widget hunissued]
        exact hremembers
    · intro widget hunissued
      rw [serveAll_append_singleton] at hunissued
      rw [optionHistory_append_singleton, settingsBy_of_unissued hsound hunissued,
        hnothing widget (Nat.lt_of_le_of_lt (le_constructed_serve _ request) hunissued)]
      rfl

/-- Constructor arguments that were given without repetitions are kept so. -/
theorem distinct_constructorArgs {requests : List Request}
    (hdistinct : ∀ widgetType parent args, .construct widgetType parent args ∈ requests →
      Table.Distinct args)
    (hrecord : (empty.serveAll requests).record? widget = some record) :
    Table.Distinct record.constructorArgs := by
  induction requests using List.reverseRecOn generalizing record with
  | nil => simp [serveAll, empty, record?, widgets, Table.get?] at hrecord
  | append_singleton early request ih =>
    have hreachable : (empty.serveAll early).Reachable := ⟨early, rfl⟩
    have hearly : ∀ record, (empty.serveAll early).record? widget = some record →
        Table.Distinct record.constructorArgs := fun record hrecord =>
      ih (fun widgetType parent args hmem =>
        hdistinct widgetType parent args (List.mem_append_left _ hmem)) hrecord
    rw [serveAll_append_singleton] at hrecord
    rcases serve_turns hreachable.sound hreachable.catalogued request hrecord with
      hold | ⟨widgetType, parent, args, rfl, -, rfl⟩ | ⟨before, cls, hbefore, -, hturns⟩
    · exact hearly record hold
    · exact hdistinct widgetType parent args (by simp)
    · rw [hturns.constructorArgs]
      exact hearly before hbefore

end Run

end Forest

end WidgetTree
