import WidgetTree.Proofs.Forest.Failure
import WidgetTree.Proofs.Forest.Variable

namespace WidgetTree

/-- What a method makes of the value of the state variable that the options of its widget name, if
they tell it to write these values for on and off. -/
def Behaviour.switch (behaviour : Behaviour) (on off current : Value) : Value :=
  match behaviour with
  | .check turn => if turn.getD (!current.same on) then on else off
  | .checkAndFire => if !current.same on then on else off
  | _ => current

namespace Record

/-- What a check button writes to its state variable when it is checked. -/
def onValue (record : Record) : Value := (record.option? "onvalue").getD (.int 1)

/-- What a check button writes to its state variable when it is unchecked. -/
def offValue (record : Record) : Value := (record.option? "offvalue").getD (.int 0)

/-- All of a record that decides what calls make of state variables. -/
def settings (record : Record) : String × (String → Option Value) :=
  (record.widgetType, record.option?)

/-- The options of the widget name this state variable. -/
def Names (record : Record) (handle : VariableId) : Prop :=
  record.option? "variable" = some (.stateVariable handle)

section Settings

variable {record other : Record} (hsettings : other.settings = record.settings)
include hsettings

/-- Records with the same settings are of the same type. -/
theorem widgetType_of_settings : other.widgetType = record.widgetType :=
  congrArg Prod.fst hsettings

/-- Records with the same settings have the same options. -/
theorem option?_of_settings : other.option? = record.option? := congrArg Prod.snd hsettings

private theorem onValue_of_settings : other.onValue = record.onValue := by
  rw [onValue, option?_of_settings hsettings, onValue]

private theorem offValue_of_settings : other.offValue = record.offValue := by
  rw [offValue, option?_of_settings hsettings, offValue]

/-- Records with the same settings name the same state variable. -/
theorem Names.of_settings {handle : VariableId} (hnames : record.Names handle) :
    other.Names handle := by
  rw [Names, option?_of_settings hsettings]
  exact hnames

end Settings

end Record

/-- The behaviour gives no option a value. -/
def Behaviour.KeepsOptions (behaviour : Behaviour) : Prop :=
  behaviour ≠ .configure ∧ behaviour ≠ .windowOption

private theorem Record.settings_of_perform {record after : Record} {behaviour : Behaviour}
    {call : Call} {answer : Value} (hkeeps : behaviour.KeepsOptions)
    (hperform : record.perform behaviour call = .ok (answer, after)) :
    after.settings = record.settings := by
  have huncalled := uncalled_of_perform hperform
  have hoptions : after.options = record.options := by
    unfold Record.perform at hperform
    dsimp only at hperform
    cases behaviour <;> dsimp only at hperform <;> (try split at hperform) <;>
      first
      | exact absurd rfl hkeeps.1
      | exact absurd rfl hkeeps.2
      | cases hperform; rfl
      | cases hperform
  have htype : after.uncalled.widgetType = record.uncalled.widgetType := by rw [huncalled]
  have hargs : after.uncalled.constructorArgs = record.uncalled.constructorArgs := by
    rw [huncalled]
  change after.widgetType = record.widgetType at htype
  change after.constructorArgs = record.constructorArgs at hargs
  have hoption : after.option? = record.option? := by
    funext name
    rw [option?, option?, hoptions, hargs]
  rw [settings, settings, htype, hoption]

namespace Forest

/-- Work on one widget in which no option of any widget has changed and no state variable. -/
structure Unswitched (widget : WidgetId) (before after : Forest) : Prop where
  touches : Touches widget before after
  settings : ∀ other, (after.record? other).map Record.settings =
    (before.record? other).map Record.settings
  heldValues : after.heldValues = before.heldValues

/-- Work on one widget in which no option of any widget has changed and no state variable but one,
which holds this value now. -/
structure Switches (widget : WidgetId) (handle : VariableId) (value : Value)
    (before after : Forest) : Prop where
  touches : Touches widget before after
  settings : ∀ other, (after.record? other).map Record.settings =
    (before.record? other).map Record.settings
  count : after.heldValues.length = before.heldValues.length
  values : ∀ other, after.valueIn? other =
    if other = handle then some value else before.valueIn? other

section Steps

variable {widget : WidgetId} {handle : VariableId} {value current : Value}
variable {first second third : Forest}

private theorem Unswitched.refl (widget : WidgetId) (forest : Forest) :
    Unswitched widget forest forest :=
  ⟨.refl widget forest, fun _ => rfl, rfl⟩

private theorem Unswitched.valueIn? (hunswitched : Unswitched widget first second)
    (other : VariableId) : second.valueIn? other = first.valueIn? other := by
  rw [Forest.valueIn?, Forest.valueIn?, hunswitched.heldValues]

/-- What leaves all state variables leaves each of them with the value that it holds. -/
theorem Unswitched.switches (hunswitched : Unswitched widget first second)
    (hheld : first.valueIn? handle = some current) :
    Switches widget handle current first second where
  touches := hunswitched.touches
  settings := hunswitched.settings
  count := congrArg List.length hunswitched.heldValues
  values other := by
    rw [hunswitched.valueIn?]
    split
    · next hother =>
      rw [hother]
      exact hheld
    · rfl

private theorem Unswitched.trans_switches (hunswitched : Unswitched widget first second)
    (hswitches : Switches widget handle value second third) :
    Switches widget handle value first third where
  touches := hunswitched.touches.trans hswitches.touches
  settings other := (hswitches.settings other).trans (hunswitched.settings other)
  count := hswitches.count.trans (congrArg List.length hunswitched.heldValues)
  values other := by rw [hswitches.values, hunswitched.valueIn?]

private theorem Switches.trans_unswitched (hswitches : Switches widget handle value first second)
    (hunswitched : Unswitched widget second third) : Switches widget handle value first third where
  touches := hswitches.touches.trans hunswitched.touches
  settings other := (hunswitched.settings other).trans (hswitches.settings other)
  count := (congrArg List.length hunswitched.heldValues).trans hswitches.count
  values other := by rw [hunswitched.valueIn?, hswitches.values]

/-- The record of a widget through such work. -/
theorem exists_settings {other : WidgetId} {record : Record}
    (hsettings : (second.record? other).map Record.settings =
      (first.record? other).map Record.settings)
    (hrecord : first.record? other = some record) :
    ∃ later, second.record? other = some later ∧ later.settings = record.settings := by
  rw [hrecord, Option.map_some] at hsettings
  exact Option.map_eq_some_iff.mp hsettings

/-- Changing the record of one widget otherwise than in its options changes no options. -/
theorem Unswitched.of_modify {forest : Forest} {record : Record} (change : Record → Record)
    (hrecord : forest.record? widget = some record)
    (hparent : (change record).parent = record.parent)
    (hsettings : (change record).settings = record.settings) :
    Unswitched widget forest (forest.modify widget change) := by
  have htouches : Touches widget forest (forest.modify widget change) := by
    refine .of_modify forest widget fun known hknown => ?_
    obtain rfl := Option.some.inj (hrecord.symm.trans hknown)
    exact hparent
  refine ⟨htouches, fun other => ?_, rfl⟩
  by_cases hother : other = widget
  · subst hother
    rw [record?_modify, if_pos rfl, hrecord]
    exact congrArg some hsettings
  · rw [htouches.others other hother]

/-- An entry of the journal switches nothing. -/
theorem Unswitched.log (hunswitched : Unswitched widget first second) (event : Event) :
    Unswitched widget first (second.log event) :=
  ⟨hunswitched.touches.trans (.of_slots widget rfl rfl rfl rfl rfl), hunswitched.settings,
    hunswitched.heldValues⟩

/-- Writing to a state variable is work on any widget. -/
theorem Writes.switches (hwrites : Writes handle value first second)
    (hserves : Serves widget first second) : Switches widget handle value first second where
  touches := hserves.touches
  settings other := by rw [hwrites.records]
  count := hwrites.count
  values := hwrites.values

end Steps

variable {forest : Forest} {widget : WidgetId} {record : Record} {handle : VariableId}
  {current : Value} {call : Call} {behaviour : Behaviour}

/-- Writing to a variable that holds something switches just that variable. -/
theorem writeVariable_switches (hheld : forest.valueIn? handle = some current) (value : Value)
    (widget : WidgetId) :
    Switches widget handle value forest (forest.writeVariable handle value).2 := by
  obtain ⟨left, hwrite, hwrites⟩ := writeVariable_of_held hheld value
  have hserves := writeVariable_serves widget handle value forest
  rw [hwrite] at hserves ⊢
  exact hwrites.switches hserves

/-- Taking note of a call switches nothing. -/
theorem noted_unswitched (hrecord : forest.record? widget = some record) (call : Call) :
    Unswitched widget forest (forest.noted widget call) :=
  (Unswitched.of_modify (noteCall call) hrecord rfl rfl).log _

/-- Firing a command switches nothing. -/
theorem fireBound_unswitched (widget : WidgetId) (forest : Forest) (record : Record) :
    Unswitched widget forest (forest.fireBound record) := by
  refine ⟨(fireBound_serves widget forest record).touches, fun other => ?_, ?_⟩
  · rw [record?_fireBound]
  · unfold fireBound fireCommand
    split
    · rfl
    · split <;> rfl

private theorem performLocally_unswitched (hrecord : forest.record? widget = some record)
    (hkeeps : behaviour.KeepsOptions) (call : Call) :
    Unswitched widget forest (forest.performLocally widget record behaviour call).2 := by
  unfold performLocally
  split
  · exact .refl widget forest
  · next answer after hperform =>
    have hparent := congrArg Record.parent (Record.uncalled_of_perform hperform)
    have hsettings := Record.settings_of_perform hkeeps hperform
    exact .of_modify (fun _ => after) hrecord hparent hsettings

/-- A check button writes to the state variable that its options name. -/
theorem check_of_held (hnames : record.Names handle)
    (hheld : forest.valueIn? handle = some current) (turn : Option Bool) :
    ∃ left, forest.check record turn = (.ok .null, left) ∧
      Writes handle ((Behaviour.check turn).switch record.onValue record.offValue current) forest
        left := by
  let value := (Behaviour.check turn).switch record.onValue record.offValue current
  obtain ⟨left, hwrite, hwrites⟩ := writeVariable_of_held hheld value
  refine ⟨left, ?_, hwrites⟩
  unfold check
  simp only [show record.option? "variable" = _ from hnames, Option.bind_some,
    Value.stateVariable?, hheld]
  change (_, (forest.writeVariable handle value).2) = _
  rw [hwrite]

private theorem check_switches (hnames : record.Names handle)
    (hheld : forest.valueIn? handle = some current) (turn : Option Bool) (widget : WidgetId) :
    ∃ left, forest.check record turn = (.ok .null, left) ∧
      Switches widget handle
        ((Behaviour.check turn).switch record.onValue record.offValue current) forest left := by
  obtain ⟨left, hcheck, hwrites⟩ := check_of_held hnames hheld turn
  have hserves := check_serves widget forest record turn
  rw [hcheck] at hserves
  exact ⟨left, hcheck, hwrites.switches hserves⟩

/-- Carrying out a call that gives no option a value switches the state variable that the options of
the widget name, if the widget is a check button, and spares all else. -/
theorem carryOut_switches (hrecord : forest.record? widget = some record)
    (hnames : record.Names handle) (hheld : forest.valueIn? handle = some current)
    (hkeeps : behaviour.KeepsOptions) (call : Call) :
    Switches widget handle (behaviour.switch record.onValue record.offValue current) forest
      (forest.carryOut widget record behaviour call).2 := by
  have hlocally : ∀ behaviour : Behaviour, behaviour.KeepsOptions →
      Switches widget handle current forest
        (forest.performLocally widget record behaviour call).2 :=
    fun behaviour hkeeps => (performLocally_unswitched hrecord hkeeps call).switches hheld
  cases behaviour with
  | check turn =>
    obtain ⟨left, hcheck, hswitches⟩ := check_switches hnames hheld turn widget
    rw [carryOut, hcheck]
    exact hswitches
  | checkAndFire =>
    obtain ⟨left, hcheck, hswitches⟩ := check_switches hnames hheld none widget
    rw [carryOut, hcheck]
    exact hswitches.trans_unswitched (fireBound_unswitched widget left record)
  | fire => exact (fireBound_unswitched widget forest record).switches hheld
  | addTab =>
    rw [carryOut]
    split
    · exact (Unswitched.refl widget forest).switches hheld
    · exact hlocally .addTab hkeeps
  | _ => exact hlocally _ hkeeps

/-- No call is refused that writes to a state variable. -/
theorem accepts_of_checks (hrecord : forest.record? widget = some record) {method : String}
    (hchecks : (Behaviour.of record.widgetType method).Checks) :
    forest.accepts widget method = true := by
  have hbutton := Behaviour.widgetType_of_checks hchecks
  rw [accepts_of_class hrecord (by rw [hbutton]; rfl)]
  rw [hbutton] at hchecks
  unfold Behaviour.of Behaviour.Checks at hchecks
  split at hchecks <;> first | rfl | simp at hchecks

/-- A call that writes to the state variable that the options of the widget name succeeds. -/
theorem invoke_of_checks (hrecord : forest.record? widget = some record)
    (hnames : record.Names handle) (hheld : forest.valueIn? handle = some current)
    (hchecks : (Behaviour.of record.widgetType call.method).Checks) :
    (forest.invoke widget call).1 = .ok .null := by
  have hnames : (noteCall call record).Names handle := hnames
  have hheld : (forest.noted widget call).valueIn? handle = some current := hheld
  rw [invoke_of_accepts hrecord (accepts_of_checks hrecord hchecks)]
  change ((forest.noted widget call).carryOut widget (noteCall call record) _ call).1 = .ok .null
  obtain ⟨turn, hcheck⟩ | hfire := hchecks
  · obtain ⟨left, hdone, -⟩ := check_of_held hnames hheld turn
    rw [hcheck]
    exact congrArg Prod.fst hdone
  · obtain ⟨left, hdone, -⟩ := check_of_held hnames hheld none
    rw [hfire, carryOut, hdone]

/-- A call of any method that gives no option a value, accepted or not, switches the state variable
that the options of the widget name, if the widget is a check button, and spares all else. -/
theorem invoke_switches (hrecord : forest.record? widget = some record)
    (hnames : record.Names handle) (hheld : forest.valueIn? handle = some current)
    (hbehaviour : Behaviour.of record.widgetType call.method = behaviour)
    (hkeeps : behaviour.KeepsOptions) :
    Switches widget handle (behaviour.switch record.onValue record.offValue current) forest
      (forest.invoke widget call).2 := by
  rcases invoke_cases widget call forest with ⟨hrefused, error, hinvoke⟩ | ⟨haccepts, -⟩
  · rw [hinvoke]
    have hsame : behaviour.switch record.onValue record.offValue current = current := by
      have hnone := mt (accepts_of_checks hrecord) (by rw [hrefused]; exact Bool.false_ne_true)
      rw [hbehaviour] at hnone
      unfold Behaviour.switch
      split
      · exact absurd (.inl ⟨_, rfl⟩) hnone
      · exact absurd (.inr rfl) hnone
      · rfl
    rw [hsame]
    exact (Unswitched.refl widget forest).switches hheld
  · have hunswitched := noted_unswitched hrecord call
    have hnoted : (forest.noted widget call).record? widget = some (noteCall call record) := by
      simp [noted, record?_modify, hrecord]
    have hcarried := carryOut_switches hnoted (hnames : (noteCall call record).Names handle)
      ((hunswitched.valueIn? handle).trans hheld) hkeeps call
    rw [← hbehaviour] at hcarried ⊢
    rw [invoke_of_accepts hrecord haccepts]
    exact hunswitched.trans_switches hcarried

/-- A live check button names a state variable and writes these values to it for on and off, and the
variable holds this value. -/
structure Shows (forest : Forest) (button : WidgetId) (handle : VariableId)
    (on off value : Value) : Prop where
  record : ∃ record, forest.record? button = some record ∧ record.widgetType = "Checkbutton" ∧
    record.Names handle ∧ record.onValue = on ∧ record.offValue = off
  held : forest.valueIn? handle = some value

namespace Shows

variable {left : Forest} {button : WidgetId} {on off value next : Value}
  (hshows : forest.Shows button handle on off value)
include hshows

/-- A button stays what it is as long as its settings do, whatever its variable holds then. -/
theorem of_settings (hsettings : (left.record? button).map Record.settings =
      (forest.record? button).map Record.settings)
    (hheld : left.valueIn? handle = some next) : left.Shows button handle on off next where
  record := by
    obtain ⟨record, hrecord, hbutton, hnames, hon, hoff⟩ := hshows.record
    obtain ⟨later, hlater, hsame⟩ := exists_settings hsettings hrecord
    exact ⟨later, hlater, (Record.widgetType_of_settings hsame).trans hbutton,
      hnames.of_settings hsame, (Record.onValue_of_settings hsame).trans hon,
      (Record.offValue_of_settings hsame).trans hoff⟩
  held := hheld

/-- A check button shows what its variable was switched to. -/
theorem switches (hswitches : Switches widget handle next forest left) :
    left.Shows button handle on off next :=
  hshows.of_settings (hswitches.settings button) ((hswitches.values handle).trans (if_pos rfl))

/-- Each call that gives no option a value switches the variable as its method is named. -/
theorem invoke (hkeeps : (Behaviour.of "Checkbutton" call.method).KeepsOptions) :
    (forest.invoke button call).2.Shows button handle on off
      ((Behaviour.of "Checkbutton" call.method).switch on off value) := by
  obtain ⟨record, hrecord, hbutton, hnames, rfl, rfl⟩ := hshows.record
  exact hshows.switches (invoke_switches hrecord hnames hshows.held (by rw [hbutton]) hkeeps)

/-- A call that writes to the variable succeeds. -/
theorem invoke_ok
    (hchecks : (Behaviour.of "Checkbutton" call.method).Checks) :
    (forest.invoke button call).1 = .ok .null := by
  obtain ⟨record, hrecord, hbutton, hnames, -⟩ := hshows.record
  rw [← hbutton] at hchecks
  exact invoke_of_checks hrecord hnames hshows.held hchecks

end Shows

end Forest

end WidgetTree
