import WidgetTree.Proofs.Forest.Fell
import WidgetTree.Proofs.Forest.Reachable
import WidgetTree.Proofs.Forest.Replay

namespace WidgetTree

namespace Event

/-- The widget that an entry is about. -/
def subject : Event → WidgetId
  | constructed widget _ | attached widget _ | attributeSet widget _ | invoked widget _
  | destroyed widget => widget

/-- The strategy of an attachment of the widget. -/
def strategyFor? (widget : WidgetId) : Event → Option String
  | attached other strategy => if other = widget then some strategy else none
  | _ => none

/-- The name of an attribute that was assigned to the widget. -/
def attributeFor? (widget : WidgetId) : Event → Option String
  | attributeSet other name => if other = widget then some name else none
  | _ => none

/-- The method of a call that was made to the widget. -/
def methodFor? (widget : WidgetId) : Event → Option String
  | invoked other method => if other = widget then some method else none
  | _ => none

/-- An entry about another widget tells nothing of this one. -/
theorem silent_of_subject_ne {event : Event} {widget : WidgetId} (hne : event.subject ≠ widget) :
    event.strategyFor? widget = none ∧ event.attributeFor? widget = none ∧
      event.methodFor? widget = none := by
  cases event <;> simp_all [subject, strategyFor?, attributeFor?, methodFor?]

end Event

/-- The record of a widget is what the journal and the widget's own log tell. -/
structure Record.ToldBy (record : Record) (widget : WidgetId) (history : List Event) : Prop where
  /-- The journal reports the calls of the log, in order. -/
  calls : history.filterMap (Event.methodFor? widget) = record.calls.map Call.method
  /-- The widget is attached as the journal reports last, if at all. -/
  attachment : record.attachment.map Attachment.strategy =
    (history.filterMap (Event.strategyFor? widget)).getLast?
  /-- The widget has the attributes that the journal reports, in the order of first report. -/
  attributes : record.attributes.keys =
    (history.filterMap (Event.attributeFor? widget)).eraseDups
  /-- What is in the widget is what the calls of the log have made, each by itself. -/
  contents : record.contents = Contents.replay record.widgetType record.calls

/-- How a record changes when an entry is made about its widget. -/
inductive Record.Undergoes (record : Record) (widget : WidgetId) : Event → Record → Prop
  | attached (strategy : String) (args : Fields Value) :
      Undergoes record widget (.attached widget strategy)
        { record with attachment := some { strategy, args } }
  | attributeSet (name : String) (value : Value) :
      Undergoes record widget (.attributeSet widget name)
        { record with attributes := record.attributes.insert name value }
  | invoked {call : Call} {later : Record} (huncalled : later.uncalled = record.uncalled)
      (hcalls : later.calls = record.calls ++ [call])
      (hcontents : later.contents = record.contents.after record.widgetType call) :
      Undergoes record widget (.invoked widget call.method) later

/-- Nothing that happens to a widget changes its type. -/
theorem Record.Undergoes.widgetType {record later : Record} {widget : WidgetId} {event : Event}
    (hundergoes : record.Undergoes widget event later) :
    later.widgetType = record.widgetType := by
  cases hundergoes with
  | attached | attributeSet => rfl
  | invoked huncalled =>
    change later.uncalled.widgetType = record.uncalled.widgetType
    rw [huncalled]

private theorem Record.Undergoes.subject {record later : Record} {widget : WidgetId} {event : Event}
    (hundergoes : record.Undergoes widget event later) : event.subject = widget := by
  cases hundergoes <;> rfl

private theorem eraseDups_append_singleton {α : Type} [DecidableEq α] (items : List α) (item : α) :
    (items ++ [item]).eraseDups =
      if item ∈ items.eraseDups then items.eraseDups else items.eraseDups ++ [item] := by
  rw [List.eraseDups_append]
  by_cases hmem : item ∈ items <;> simp [List.removeAll, List.eraseDups_cons, hmem]

namespace Record.ToldBy

variable {record later : Record} {widget : WidgetId} {history : List Event} {event : Event}

/-- An entry about another widget changes nothing of what the journal tells of this one. -/
theorem elsewhere (htold : record.ToldBy widget history) (hne : event.subject ≠ widget) :
    record.ToldBy widget (history ++ [event]) := by
  obtain ⟨hstrategy, hattribute, hmethod⟩ := Event.silent_of_subject_ne hne
  refine ⟨?_, ?_, ?_, htold.contents⟩
  · simpa [List.filterMap_cons, hmethod] using htold.calls
  · simpa [List.filterMap_cons, hstrategy] using htold.attachment
  · simpa [List.filterMap_cons, hattribute] using htold.attributes

/-- What happens to a widget is told together with the entry that is made about it. -/
theorem undergo (htold : record.ToldBy widget history)
    (hundergoes : record.Undergoes widget event later) :
    later.ToldBy widget (history ++ [event]) := by
  cases hundergoes with
  | attached strategy args =>
    refine ⟨?_, ?_, ?_, htold.contents⟩
    · simpa [List.filterMap_cons, Event.methodFor?] using htold.calls
    · simp [Event.strategyFor?]
    · simpa [List.filterMap_cons, Event.attributeFor?] using htold.attributes
  | attributeSet name value =>
    refine ⟨?_, ?_, ?_, htold.contents⟩
    · simpa [List.filterMap_cons, Event.methodFor?] using htold.calls
    · simpa [List.filterMap_cons, Event.strategyFor?] using htold.attachment
    · simp [Event.attributeFor?, Table.keys_insert, htold.attributes,
        eraseDups_append_singleton]
  | @invoked call later huncalled hcalls hcontents =>
    have htype : later.uncalled.widgetType = record.uncalled.widgetType := by rw [huncalled]
    have hattached : later.uncalled.attachment = record.uncalled.attachment := by rw [huncalled]
    have hassigned : later.uncalled.attributes = record.uncalled.attributes := by rw [huncalled]
    simp only [uncalled] at htype hattached hassigned
    refine ⟨?_, ?_, ?_, ?_⟩
    · simp [Event.methodFor?, htold.calls, hcalls]
    · simpa [List.filterMap_cons, Event.strategyFor?, hattached] using htold.attachment
    · simpa [List.filterMap_cons, Event.attributeFor?, hassigned] using htold.attributes
    · rw [hcontents, htype, hcalls, Contents.replay_append_singleton, htold.contents]

/-- A widget that the journal has not reported yet is told by the entry of its construction. -/
theorem construct (hfresh : ∀ event ∈ history, event.subject ≠ widget) (widgetType : String)
    (parent : Option WidgetId) (args : Fields Value) :
    (Forest.newRecord widgetType parent args).ToldBy widget
      (history ++ [.constructed widget widgetType]) := by
  have hsilent := fun event hevent => Event.silent_of_subject_ne (hfresh event hevent)
  have hmethods : history.filterMap (Event.methodFor? widget) = [] :=
    List.filterMap_eq_nil_iff.mpr fun event hevent => (hsilent event hevent).2.2
  have hstrategies : history.filterMap (Event.strategyFor? widget) = [] :=
    List.filterMap_eq_nil_iff.mpr fun event hevent => (hsilent event hevent).1
  have hattributes : history.filterMap (Event.attributeFor? widget) = [] :=
    List.filterMap_eq_nil_iff.mpr fun event hevent => (hsilent event hevent).2.1
  refine ⟨?_, ?_, ?_, rfl⟩
  · rw [List.filterMap_append, hmethods]
    rfl
  · rw [List.filterMap_append, hstrategies]
    rfl
  · rw [List.filterMap_append, hattributes]
    rfl

end Record.ToldBy

namespace Forest

/-- The journal tells of no widget that was not constructed yet, and the record of every live widget
is what the journal and the widget's own log tell. -/
structure Accounted (forest : Forest) : Prop where
  issued : ∀ event ∈ forest.history, event.subject.number ≤ forest.constructed
  told : ∀ widget record, forest.record? widget = some record →
    record.ToldBy widget forest.history

/-- An entry is made about a live widget, whose record changes as the entry says. -/
structure Enters (widget : WidgetId) (before after : Forest) : Prop where
  touches : Touches widget before after
  told : ∃ event record later, before.record? widget = some record ∧
    record.Undergoes widget event later ∧ after.record? widget = some later ∧
    after.history = before.history ++ [event]

/-- Neither the arena nor the journal changes. -/
structure Rests (before after : Forest) : Prop where
  slots : after.slots = before.slots
  free : after.free = before.free
  constructed : after.constructed = before.constructed
  history : after.history = before.history

section Requests

variable {forest : Forest} {widget : WidgetId}

private theorem Rests.refl (forest : Forest) : Rests forest forest := ⟨rfl, rfl, rfl, rfl⟩

/-- A change to the record of a live widget goes with the entry that reports it. -/
theorem Enters.of_modify {record : Record} {change : Record → Record} {event : Event}
    (htouches : Touches widget forest ((forest.modify widget change).log event))
    (hrecord : forest.record? widget = some record)
    (hundergoes : record.Undergoes widget event (change record)) :
    Enters widget forest ((forest.modify widget change).log event) := by
  refine ⟨htouches, event, record, change record, hrecord, hundergoes, ?_, rfl⟩
  rw [record?_log, record?_modify, if_pos rfl, hrecord, Option.map_some]

private theorem attach_enters (widget : WidgetId) (strategy : String) (args : Fields Value) :
    (∃ error, forest.attach widget strategy args = (.error error, forest)) ∨
      Enters widget forest (forest.attach widget strategy args).2 := by
  rcases attach_cases widget strategy args forest with herror | hattach
  · exact .inl herror
  · cases hrecord : forest.record? widget with
    | none =>
      refine .inl ⟨.deadWidget, ?_⟩
      rw [attach, classOf, hrecord]
    | some record =>
      have htouches := attach_touches widget strategy args forest
      rw [hattach] at htouches ⊢
      exact .inr (.of_modify htouches hrecord (.attached strategy args))

private theorem setAttribute_enters (widget : WidgetId) (name : String) (value : Value) :
    (∃ error, forest.setAttribute widget name value = (.error error, forest)) ∨
      Enters widget forest (forest.setAttribute widget name value).2 := by
  rcases setAttribute_cases widget name value forest with herror | hassign
  · exact .inl herror
  · cases hrecord : forest.record? widget with
    | none =>
      refine .inl ⟨.deadWidget, ?_⟩
      rw [setAttribute, contains, hrecord]
      rfl
    | some record =>
      have htouches := setAttribute_touches widget name value forest
      rw [hassign] at htouches ⊢
      exact .inr (.of_modify htouches hrecord (.attributeSet name value))

private theorem invoke_enters (widget : WidgetId) (call : Call) :
    (∃ error, forest.invoke widget call = (.error error, forest)) ∨
      Enters widget forest (forest.invoke widget call).2 := by
  rcases invoke_cases widget call forest with ⟨-, herror⟩ | ⟨haccepts, record, -, hrecord, -⟩
  · exact .inl herror
  · obtain ⟨htouches, -, hhistory⟩ := invoke_spec widget call forest
    obtain ⟨later, hlater, huncalled, hcalls, hcontents⟩ := invoke_replays hrecord haccepts
    rw [if_pos haccepts] at hhistory
    exact .inr ⟨htouches, _, record, later, hrecord, .invoked huncalled hcalls hcontents, hlater,
      hhistory⟩

/-- All that serving a request can do to records and journal: a widget of a known type is planted, a
live one is destroyed, an entry is made about a live one, or both stay. -/
theorem serve_entries (forest : Forest) (request : Request) :
    (∃ widgetType parent args, (∃ cls, WidgetClass.ofName? widgetType = some cls) ∧
      forest.serve request = forest.plant widgetType parent args) ∨
    (∃ widget ∈ forest.live, forest.serve request = (forest.destroy widget).2) ∨
    (∃ widget, Enters widget forest (forest.serve request)) ∨
    Rests forest (forest.serve request) := by
  cases request with
  | construct widgetType parent args =>
    rcases construct_cases widgetType parent args forest with
      ⟨error, hconstruct⟩ | ⟨hknown, -, hconstruct⟩
    · refine .inr (.inr (.inr ?_))
      simp [serve, hconstruct, Rests.refl]
    · exact .inl ⟨widgetType, parent, args, hknown, by simp [serve, hconstruct]⟩
  | attach widget strategy args =>
    rcases @attach_enters forest widget strategy args with ⟨error, herror⟩ | henters
    · exact .inr (.inr (.inr (by simp [serve, herror, Rests.refl])))
    · exact .inr (.inr (.inl ⟨widget, henters⟩))
  | setAttribute widget name value =>
    rcases @setAttribute_enters forest widget name value with ⟨error, herror⟩ | henters
    · exact .inr (.inr (.inr (by simp [serve, herror, Rests.refl])))
    · exact .inr (.inr (.inl ⟨widget, henters⟩))
  | invoke widget call =>
    rcases @invoke_enters forest widget call with ⟨error, herror⟩ | henters
    · exact .inr (.inr (.inr (by simp [serve, herror, Rests.refl])))
    · exact .inr (.inr (.inl ⟨widget, henters⟩))
  | destroy widget =>
    by_cases hlive : widget ∈ forest.live
    · exact .inr (.inl ⟨widget, hlive, rfl⟩)
    · refine .inr (.inr (.inr ?_))
      simp [serve, destroy_of_not_mem hlive, Rests.refl]
  | createVariable | registerCommand => exact .inr (.inr (.inr ⟨rfl, rfl, rfl, rfl⟩))
  | readVariable | writeVariable | fireCommand =>
    refine .inr (.inr (.inr ?_))
    simp only [serve, readVariable, writeVariable, fireCommand]
    split <;> exact ⟨rfl, rfl, rfl, rfl⟩

/-- A destruction is journalled under the widget that was destroyed, whatever goes with it. -/
theorem history_destroy (hlive : widget ∈ forest.live) :
    (forest.destroy widget).2.history = forest.history ++ [.destroyed widget] := by
  obtain ⟨record, hrecord⟩ := mem_live_iff.mp hlive
  obtain ⟨-, -, -, hhistory, -⟩ := disown_fields forest record.parent widget
  have hkept := (release_journal (forest.disown record.parent widget) [widget]).1
  rw [destroy_of_record? hrecord, log, hkept, hhistory]

namespace Accounted

/-- The entries that there are tell of no widget that is planted now. -/
theorem plant (haccounted : forest.Accounted) (hsound : forest.Sound) (widgetType : String)
    (parent : Option WidgetId) (args : Fields Value) :
    (forest.plant widgetType parent args).Accounted where
  issued event hevent := by
    rw [history_plant, List.mem_append, List.mem_singleton] at hevent
    rw [constructed_plant]
    rcases hevent with hold | rfl
    · exact Nat.le_succ_of_le (haccounted.issued event hold)
    · exact Nat.le_refl _
  told widget record hrecord := by
    rw [record?_plant widgetType parent args hsound] at hrecord
    rw [history_plant]
    split at hrecord
    · next hnew =>
      subst hnew
      cases hrecord
      refine .construct ?_ widgetType parent args
      intro event hevent heq
      have hle := haccounted.issued event hevent
      rw [heq] at hle
      exact Nat.not_succ_le_self _ hle
    · next hold => exact (haccounted.told widget record hrecord).elsewhere (Ne.symm hold)

/-- A destruction is reported of a widget that is not live any more. -/
theorem destroy (haccounted : forest.Accounted) (hsound : forest.Sound)
    (hlive : widget ∈ forest.live) : (forest.destroy widget).2.Accounted := by
  obtain ⟨after, hdestroy, hfelled⟩ := hsound.destroy_felled hlive
  have hhistory := history_destroy hlive
  rw [hdestroy] at hhistory ⊢
  constructor
  · intro event hevent
    rw [hhistory, List.mem_append, List.mem_singleton] at hevent
    rw [hfelled.constructed]
    rcases hevent with hold | rfl
    · exact haccounted.issued event hold
    · exact (hsound.issued widget hlive).2
  · intro other record hrecord
    have hleft : other ∈ after.live := mem_live_iff.mpr ⟨record, hrecord⟩
    rw [hfelled.record?_of_mem_live hleft] at hrecord
    rw [hhistory]
    refine (haccounted.told other record hrecord).elsewhere ?_
    rintro rfl
    exact hfelled.gone hleft

private theorem enter (haccounted : forest.Accounted) (hsound : forest.Sound) {after : Forest}
    (henters : Enters widget forest after) : after.Accounted := by
  obtain ⟨htouches, event, record, later, hrecord, hundergoes, hlater, hhistory⟩ := henters
  have hsubject := hundergoes.subject
  constructor
  · intro other hother
    rw [hhistory, List.mem_append, List.mem_singleton] at hother
    rw [htouches.constructed]
    rcases hother with hold | rfl
    · exact haccounted.issued other hold
    · rw [hsubject]
      exact (hsound.issued widget (mem_live_iff.mpr ⟨record, hrecord⟩)).2
  · intro other known hknown
    rw [hhistory]
    by_cases hother : other = widget
    · subst hother
      rw [hlater, Option.some.injEq] at hknown
      exact hknown ▸ (haccounted.told other record hrecord).undergo hundergoes
    · rw [htouches.others other hother] at hknown
      refine (haccounted.told other known hknown).elsewhere ?_
      rw [hsubject]
      exact Ne.symm hother

/-- One request keeps the journal and the records in step. -/
theorem serve (haccounted : forest.Accounted) (hsound : forest.Sound) (request : Request) :
    (forest.serve request).Accounted := by
  rcases serve_entries forest request with
    ⟨widgetType, parent, args, -, hserve⟩ | ⟨widget, hlive, hserve⟩ | ⟨widget, henters⟩ | hrests
  · rw [hserve]
    exact haccounted.plant hsound widgetType parent args
  · rw [hserve]
    exact haccounted.destroy hsound hlive
  · exact haccounted.enter hsound henters
  · obtain ⟨hslots, -, hconstructed, hhistory⟩ := hrests
    constructor
    · rw [hhistory, hconstructed]
      exact haccounted.issued
    · intro widget record hrecord
      rw [record?, widgets, hslots] at hrecord
      rw [hhistory]
      exact haccounted.told widget record hrecord

/-- However many requests are served, the journal and the records stay in step. -/
theorem serveAll (haccounted : forest.Accounted) (hsound : forest.Sound)
    (requests : List Request) : (forest.serveAll requests).Accounted := by
  induction requests generalizing forest with
  | nil => exact haccounted
  | cons request rest ih => exact ih (haccounted.serve hsound request) (hsound.serve request)

/-- A widget that is not attached never was. -/
theorem not_attached (haccounted : forest.Accounted) {record : Record}
    (hrecord : forest.record? widget = some record) (hattachment : record.attachment = none)
    (strategy : String) : .attached widget strategy ∉ forest.history := by
  intro hentry
  have htold := (haccounted.told widget record hrecord).attachment
  rw [hattachment] at htold
  have hnone := List.getLast?_eq_none_iff.mp htold.symm
  have hmem : strategy ∈ forest.history.filterMap (Event.strategyFor? widget) :=
    List.mem_filterMap.mpr ⟨_, hentry, by simp [Event.strategyFor?]⟩
  rw [hnone] at hmem
  cases hmem

end Accounted

/-- The empty forest has nothing to account for. -/
theorem accounted_empty : empty.Accounted where
  issued := by simp [empty]
  told := by simp [empty, record?, widgets, Table.get?]

/-- Whatever is asked of the empty forest, in any order, with any arguments and with success or
without, the journal and the logs tell the records of the live widgets. -/
theorem accounted_serveAll_empty (requests : List Request) :
    (empty.serveAll requests).Accounted :=
  accounted_empty.serveAll sound_empty requests

end Requests

end Forest

end WidgetTree
