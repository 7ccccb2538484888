import WidgetTree.Proofs.Controls.Wiring

namespace WidgetTree

open Forest

/-- What happens to elements once they are built: the command of one is set, and is registered under
this handle, or its widget is clicked. -/
inductive CommandEvent
  | set (ref : ElementRef) (command : CommandId)
  | click (ref : ElementRef)
deriving DecidableEq

namespace CommandEvent

/-- Whether the event sets the command of this element. -/
def sets (ref : ElementRef) : CommandEvent → Bool
  | set other _ => other = ref
  | click _ => false

/-- The command that the event sets, if it sets one. -/
def command? : CommandEvent → Option CommandId
  | set _ command => some command
  | click _ => none

/-- The command that was set last for each element, after the event. -/
def told (told : ElementRef → Option CommandId) : CommandEvent → ElementRef → Option CommandId
  | set ref command => Function.update told ref (some command)
  | click _ => told

/-- What the event is to fire, where these commands were set last. -/
def fires (told : ElementRef → Option CommandId) : CommandEvent → List CommandId
  | set _ _ => []
  | click ref => (told ref).toList

end CommandEvent

/-- The command that was set last for each element. -/
def lastTold (events : List CommandEvent) : ElementRef → Option CommandId :=
  events.foldl CommandEvent.told fun _ => none

/-- How often an element is clicked before its command is set again. -/
def clicksBeforeNext (ref : ElementRef) (events : List CommandEvent) : Nat :=
  (events.takeWhile fun event => !event.sets ref).count (.click ref)

/-- What events are to fire, where these commands were set last before. -/
def firedAfter (told : ElementRef → Option CommandId) : List CommandEvent → List CommandId
  | [] => []
  | event :: rest => event.fires told ++ firedAfter (event.told told) rest

section Events

variable {told : ElementRef → Option CommandId} {events : List CommandEvent} {command : CommandId}

private theorem firedAfter_append (told : ElementRef → Option CommandId)
    (events more : List CommandEvent) :
    firedAfter told (events ++ more) =
      firedAfter told events ++ firedAfter (events.foldl CommandEvent.told told) more := by
  induction events generalizing told with
  | nil => rfl
  | cons event rest ih =>
    rw [List.cons_append, firedAfter, firedAfter, ih, List.append_assoc, List.foldl_cons]

private theorem lastTold_concat (events : List CommandEvent) (event : CommandEvent) :
    lastTold (events ++ [event]) = event.told (lastTold events) := by
  rw [lastTold, List.foldl_append]
  rfl

private theorem firedAfter_concat (events : List CommandEvent) (event : CommandEvent) :
    firedAfter (fun _ => none) (events ++ [event]) =
      firedAfter (fun _ => none) events ++ event.fires (lastTold events) := by
  rw [firedAfter_append, firedAfter, firedAfter, List.append_nil]
  rfl

/-- Once a command is set for an element, each element has that command or its own from before. -/
theorem told_set_cases {ref other : ElementRef} {given : CommandId}
    (htold : CommandEvent.told told (.set other given) ref = some command) :
    ref = other ∧ given = command ∨ ref ≠ other ∧ told ref = some command := by
  by_cases hother : ref = other
  · subst hother
    rw [CommandEvent.told, Function.update_self] at htold
    exact .inl ⟨rfl, Option.some.inj htold⟩
  · rw [CommandEvent.told, Function.update_of_ne hother] at htold
    exact .inr ⟨hother, htold⟩

/-- What an element was told last, it was told before or in one of the events. -/
theorem set_of_foldl_told {ref : ElementRef}
    (htold : events.foldl CommandEvent.told told ref = some command) :
    told ref = some command ∨ .set ref command ∈ events := by
  induction events generalizing told with
  | nil => exact .inl htold
  | cons event rest ih =>
    rcases ih htold with hbefore | hlater
    · cases event with
      | set other given =>
        rcases told_set_cases hbefore with ⟨rfl, rfl⟩ | ⟨-, hold⟩
        · exact .inr List.mem_cons_self
        · exact .inl hold
      | click other => exact .inl hbefore
    · exact .inr (List.mem_cons_of_mem _ hlater)

/-- Whatever is fired was set before or in one of the events. -/
theorem set_of_mem_firedAfter (hfired : command ∈ firedAfter told events) :
    ∃ ref, told ref = some command ∨ .set ref command ∈ events := by
  induction events generalizing told with
  | nil => cases hfired
  | cons event rest ih =>
    rw [firedAfter, List.mem_append] at hfired
    rcases hfired with hnow | hlater
    · cases event with
      | set other given => cases hnow
      | click other => exact ⟨other, .inl (by simpa [CommandEvent.fires] using hnow)⟩
    · obtain ⟨ref, hbefore | hset⟩ := ih hlater
      · have hfirst : [event].foldl CommandEvent.told told ref = some command := hbefore
        refine ⟨ref, (set_of_foldl_told hfirst).imp_right fun hset => ?_⟩
        exact List.mem_singleton.mp hset ▸ List.mem_cons_self
      · exact ⟨ref, .inr (List.mem_cons_of_mem _ hset)⟩

/-- A command that no other element was told, and that is not set again, is fired as often as its
element is clicked before the next command is set for it. -/
theorem count_firedAfter {ref : ElementRef} (hown : told ref = some command)
    (honly : ∀ other, told other = some command → other = ref)
    (hunset : ∀ other, .set other command ∉ events) :
    (firedAfter told events).count command = clicksBeforeNext ref events := by
  induction events generalizing told with
  | nil => rfl
  | cons event rest ih =>
    have hrest : ∀ other, .set other command ∉ rest :=
      fun other hset => hunset other (List.mem_cons_of_mem _ hset)
    rw [firedAfter, List.count_append]
    cases event with
    | set other given =>
      have hgiven : given ≠ command := by
        rintro rfl
        exact hunset other List.mem_cons_self
      have hkept {third : ElementRef}
          (hthird : CommandEvent.told told (.set other given) third = some command) :
          third ≠ other ∧ third = ref := by
        rcases told_set_cases hthird with ⟨-, hsame⟩ | ⟨hdiffer, hold⟩
        · exact absurd hsame hgiven
        · exact ⟨hdiffer, honly third hold⟩
      by_cases hother : other = ref
      · -- From here on nothing fires the command any more.
        have hnever : command ∉ firedAfter (CommandEvent.told told (.set other given)) rest := by
          intro hfired
          obtain ⟨third, hbefore | hset⟩ := set_of_mem_firedAfter hfired
          · exact (hkept hbefore).1 ((hkept hbefore).2.trans hother.symm)
          · exact hrest third hset
        simpa [CommandEvent.fires, clicksBeforeNext, CommandEvent.sets, hother,
          List.count_eq_zero] using hnever
      · have hlater : (firedAfter (CommandEvent.told told (.set other given)) rest).count command =
            clicksBeforeNext ref rest := by
          refine ih ?_ (fun third hthird => (hkept hthird).2) hrest
          rw [CommandEvent.told, Function.update_of_ne (Ne.symm hother), hown]
        simpa [CommandEvent.fires, clicksBeforeNext, CommandEvent.sets, hother] using hlater
    | click other =>
      have hlater := ih hown honly hrest
      have hnow : (told other).toList.count command = if other = ref then 1 else 0 := by
        split
        · next hother => simp [hother, hown]
        · next hother =>
          rw [List.count_eq_zero]
          exact fun hmem => hother (honly other (Option.mem_toList.mp hmem))
      rw [CommandEvent.fires, hnow, CommandEvent.told, hlater, clicksBeforeNext, clicksBeforeNext,
        List.takeWhile_cons_of_pos rfl, List.count_cons, Nat.add_comm]
      simp

end Events

/-- Elements that were built in a forest, and what has happened to them since. They are built alone
or in trees, with success or without, from nodes that bring no handles with them; a builder may have
bound any names before. Commands are set for those of them that are buttons and check boxes, and
these are clicked. -/
inductive Commanded (start : Forest) : List CommandEvent → Site Forest → Prop
  | begin : Commanded start [] { toolkit := start }
  | build {events : List CommandEvent} {site : Site Forest} (hrun : Commanded start events site)
      (plan : Plan) (registry : Registry) (target : Option WidgetId) (tree : NodeTree)
      (hplan : plan.KeepsHandleFree) (hfree : tree.HandleFree) :
      Commanded start events ((plan.build target tree).perform { site with registry }).2
  | make {events : List CommandEvent} {site : Site Forest} (hrun : Commanded start events site)
      (role : Role) (spec : NodeSpec) (config : Config) (target : Option WidgetId)
      (hfree : spec.HandleFree) :
      Commanded start events ((Site.make role spec config target).perform site).2
  | set {events : List CommandEvent} {site : Site Forest} {ref : ElementRef} {element : Element}
      (hrun : Commanded start events site) (hget : site.elements.get? ref = some element)
      (hcontrol : element.IsControl) :
      Commanded start (events ++ [.set ref site.toolkit.registerCommand.1])
        { site with toolkit := (element.setCommand.perform site.toolkit).2 }
  | click {events : List CommandEvent} {site : Site Forest} {ref : ElementRef} {element : Element}
      {widget : WidgetId} (hrun : Commanded start events site)
      (hget : site.elements.get? ref = some element) (hcontrol : element.IsControl)
      (hown : element.widget = some widget) (args : Arguments) :
      Commanded start (events ++ [.click ref])
        { site with toolkit := (site.toolkit.invoke widget ⟨"invoke", args⟩).2 }

/-- Each element is wired to the command that was set last for it, and what was fired since the
start is what the events are to fire. So many commands are registered, and each that was set is one
of them and was set once. -/
structure Routed (start : Forest) (commands : Nat) (events : List CommandEvent)
    (site : Site Forest) : Prop where
  wired : site.Wired (lastTold events) commands
    (start.fired ++ firedAfter (fun _ => none) events)
  registered : ∀ ref command, .set ref command ∈ events →
    0 < command.number ∧ command.number ≤ commands
  distinct : (events.filterMap CommandEvent.command?).Nodup

namespace Routed

variable {start : Forest} {commands : Nat} {events : List CommandEvent} {site : Site Forest}

private theorem begin (hsound : start.Sound) :
    Routed start start.commands [] { toolkit := start } where
  wired := by
    refine ⟨hsound, rfl, (List.append_nil _).symm, fun _ _ => rfl, ?_, ?_⟩
    · exact fun hget => nomatch hget
    · exact fun hget => nomatch hget
  registered _ _ hset := absurd hset List.not_mem_nil
  distinct := List.nodup_nil

variable (hrouted : Routed start commands events site)
include hrouted

private theorem hasCommand {ref : ElementRef} {command : CommandId}
    (htold : lastTold events ref = some command) : site.toolkit.hasCommand command = true := by
  rcases set_of_foldl_told htold with hnone | hset
  · cases hnone
  · simpa [Forest.hasCommand, hrouted.wired.commands] using hrouted.registered ref command hset

private theorem registerCommand_number : site.toolkit.registerCommand.1.number = commands + 1 := by
  rw [← hrouted.wired.commands]
  rfl

/-- A command that was not registered was not set. -/
theorem command_unset {command : CommandId} (hnew : commands < command.number)
    (ref : ElementRef) : .set ref command ∉ events := fun hset =>
  absurd (hrouted.registered ref command hset).2 (Nat.not_le_of_gt hnew)

private theorem build (plan : Plan) (registry : Registry) (target : Option WidgetId)
    {tree : NodeTree} (hplan : plan.KeepsHandleFree) (hfree : tree.HandleFree) :
    Routed start commands events ((plan.build target tree).perform { site with registry }).2 where
  wired := Plan.build_wired hplan target tree hfree _ (hrouted.wired.of_kept rfl rfl)
  registered := hrouted.registered
  distinct := hrouted.distinct

private theorem make (role : Role) {spec : NodeSpec} (config : Config) (target : Option WidgetId)
    (hfree : spec.HandleFree) :
    Routed start commands events ((Site.make role spec config target).perform site).2 where
  wired := Site.make_wired role hfree config target site hrouted.wired
  registered := hrouted.registered
  distinct := hrouted.distinct

private theorem set {ref : ElementRef} {element : Element}
    (hget : site.elements.get? ref = some element) (hcontrol : element.IsControl) :
    Routed start (commands + 1) (events ++ [.set ref site.toolkit.registerCommand.1])
      { site with toolkit := (element.setCommand.perform site.toolkit).2 } := by
  obtain ⟨left, hset, hwired⟩ := hrouted.wired.setCommand hget hcontrol
  have hnumber := hrouted.registerCommand_number
  rw [hset]
  refine ⟨?_, ?_, ?_⟩
  · rw [lastTold_concat, firedAfter_concat, CommandEvent.fires, List.append_nil]
    exact hwired
  · intro other command hmem
    rcases List.mem_append.mp hmem with hold | hnew
    · have := hrouted.registered other command hold
      omega
    · obtain ⟨rfl, rfl⟩ := CommandEvent.set.inj (List.mem_singleton.mp hnew)
      omega
  · rw [List.filterMap_append]
    refine List.nodup_append.mpr ⟨hrouted.distinct, List.nodup_singleton _, ?_⟩
    intro command hold other hnew hsame
    obtain ⟨event, hevent, hcommand⟩ := List.mem_filterMap.mp hold
    cases event with
    | click => cases hcommand
    | set third given =>
      obtain rfl := Option.some.inj hcommand
      obtain rfl : other = site.toolkit.registerCommand.1 := List.mem_singleton.mp hnew
      exact hrouted.command_unset (by omega) third (hsame ▸ hevent)

private theorem click {ref : ElementRef} {element : Element} {widget : WidgetId}
    (hget : site.elements.get? ref = some element) (hcontrol : element.IsControl)
    (hown : element.widget = some widget) (args : Arguments) :
    Routed start commands (events ++ [.click ref])
      { site with toolkit := (site.toolkit.invoke widget ⟨"invoke", args⟩).2 } := by
  obtain ⟨known, left, hknown, hinvoke, hwired⟩ :=
    hrouted.wired.click hget hcontrol (fun _ htold => hrouted.hasCommand htold) args
  obtain rfl := Option.some.inj (hknown.symm.trans hown)
  rw [hinvoke]
  refine ⟨?_, ?_, ?_⟩
  · rw [lastTold_concat, firedAfter_concat, ← List.append_assoc]
    exact hwired
  · intro other command hmem
    refine hrouted.registered other command ?_
    simpa using hmem
  · have hnone : [CommandEvent.click ref].filterMap CommandEvent.command? = [] := rfl
    rw [List.filterMap_append, hnone, List.append_nil]
    exact hrouted.distinct

/-- Each command is fired as often as its element is clicked from when it is set until the next one
is set for the same element. -/
theorem count_fired {before after : List CommandEvent} {ref : ElementRef} {command : CommandId}
    (hevents : events = before ++ .set ref command :: after) :
    (firedAfter (fun _ => none) events).count command = clicksBeforeNext ref after := by
  have hdistinct := hrouted.distinct
  rw [hevents, List.filterMap_append, List.nodup_append] at hdistinct
  obtain ⟨-, hbehind, hapart⟩ := hdistinct
  have hunset (other : ElementRef) : .set other command ∉ before := fun hset =>
    hapart command (List.mem_filterMap.mpr ⟨_, hset, rfl⟩) command List.mem_cons_self rfl
  have hlater (other : ElementRef) : .set other command ∉ after := fun hset =>
    (List.nodup_cons.mp hbehind).1 (List.mem_filterMap.mpr ⟨_, hset, rfl⟩)
  have hnever : (firedAfter (fun _ => none) before).count command = 0 := by
    rw [List.count_eq_zero]
    intro hfired
    obtain ⟨other, hnone | hset⟩ := set_of_mem_firedAfter hfired
    · cases hnone
    · exact hunset other hset
  have hown : CommandEvent.told (lastTold before) (.set ref command) ref = some command :=
    Function.update_self ..
  have honly (other : ElementRef)
      (htold : CommandEvent.told (lastTold before) (.set ref command) other = some command) :
      other = ref := by
    rcases told_set_cases htold with ⟨hsame, -⟩ | ⟨-, hold⟩
    · exact hsame
    · rcases set_of_foldl_told hold with hnone | hset
      · cases hnone
      · exact absurd hset (hunset other)
  calc (firedAfter (fun _ => none) events).count command
      = (firedAfter (CommandEvent.told (lastTold before) (.set ref command)) after).count
          command := by
        rw [hevents, firedAfter_append, List.count_append, hnever, Nat.zero_add]
        rfl
    _ = clicksBeforeNext ref after := count_firedAfter hown honly hlater

end Routed

namespace Commanded

variable {start : Forest} {events : List CommandEvent} {site : Site Forest}

private theorem routed (hsound : start.Sound) (hrun : Commanded start events site) :
    ∃ commands, Routed start commands events site := by
  induction hrun with
  | begin => exact ⟨_, .begin hsound⟩
  | build _ plan registry target tree hplan hfree ih =>
    obtain ⟨commands, hrouted⟩ := ih
    exact ⟨commands, hrouted.build plan registry target hplan hfree⟩
  | make _ role spec config target hfree ih =>
    obtain ⟨commands, hrouted⟩ := ih
    exact ⟨commands, hrouted.make role config target hfree⟩
  | set _ hget hcontrol ih =>
    obtain ⟨commands, hrouted⟩ := ih
    exact ⟨commands + 1, hrouted.set hget hcontrol⟩
  | click _ hget hcontrol hown args ih =>
    obtain ⟨commands, hrouted⟩ := ih
    exact ⟨commands, hrouted.click hget hcontrol hown args⟩

/-- However buttons and check boxes were built, told commands and clicked before, each of them can
be told a command, which is a new one, and fires nothing by that; and each of them can be clicked,
which fires the command that it was told last, once, and nothing else, and nothing at all if it was
told none. So all that was fired since the start are commands that were set, and each of them was
fired as often as its element was clicked from when it was set until the next one was set for that
element. -/
theorem clicks_fire_last_told (hreachable : start.Reachable)
    (hrun : Commanded start events site) :
    (∀ ref element, site.elements.get? ref = some element → element.IsControl →
      (∃ left, element.setCommand.perform site.toolkit =
          (.ok site.toolkit.registerCommand.1, left) ∧
        (∀ other, .set other site.toolkit.registerCommand.1 ∉ events) ∧
        left.fired = site.toolkit.fired) ∧
      ∃ widget, element.widget = some widget ∧ ∀ args, ∃ left,
        site.toolkit.invoke widget ⟨"invoke", args⟩ = (.ok .null, left) ∧
        left.fired = site.toolkit.fired ++ (lastTold events ref).toList) ∧
    ∃ fires, site.toolkit.fired = start.fired ++ fires ∧
      (∀ command ∈ fires, ∃ ref, .set ref command ∈ events) ∧
      ∀ before ref command after, events = before ++ .set ref command :: after →
        fires.count command = clicksBeforeNext ref after := by
  obtain ⟨commands, hrouted⟩ := hrun.routed hreachable.sound
  refine ⟨fun ref element hget hcontrol => ⟨?_, ?_⟩, firedAfter (fun _ => none) events,
    hrouted.wired.fired, fun command hfired => ?_, fun before ref command after hevents =>
      hrouted.count_fired hevents⟩
  · obtain ⟨left, hset, hwired⟩ := hrouted.wired.setCommand hget hcontrol
    have hnumber := hrouted.registerCommand_number
    exact ⟨left, hset, hrouted.command_unset (by omega),
      hwired.fired.trans hrouted.wired.fired.symm⟩
  · have hregistered := fun command (htold : command ∈ lastTold events ref) =>
      hrouted.hasCommand htold
    obtain ⟨widget, _, hown, -⟩ := hrouted.wired.click hget hcontrol hregistered .none
    refine ⟨widget, hown, fun args => ?_⟩
    obtain ⟨known, left, hknown, hinvoke, hwired⟩ :=
      hrouted.wired.click hget hcontrol hregistered args
    obtain rfl := Option.some.inj (hknown.symm.trans hown)
    refine ⟨left, hinvoke, hwired.fired.trans ?_⟩
    rw [hrouted.wired.fired]
  · obtain ⟨ref, hnone | hset⟩ := set_of_mem_firedAfter hfired
    · cases hnone
    · exact ⟨ref, hset⟩

/-- A button and a check box in a tree and a button beside them. The first button is clicked before
and after the check box, and is told another command at last; the other button is told none. -/
theorem clicks_on_save_and_agree :
    let start := empty.serveAll [.construct "Tk" none []]
    ∃ site first second third,
      Commanded start
        [.set ⟨1⟩ first, .click ⟨1⟩, .click ⟨2⟩, .set ⟨2⟩ second, .click ⟨2⟩, .click ⟨1⟩,
          .set ⟨1⟩ third, .click ⟨1⟩] site ∧
      site.toolkit.fired.count first = 2 ∧ site.toolkit.fired.count second = 1 ∧
      site.toolkit.fired.count third = 1 ∧
      ∃ left, site.toolkit.invoke ⟨5⟩ ⟨"invoke", .none⟩ = (.ok .null, left) ∧
        left.fired = site.toolkit.fired := by
  intro start
  let save : NodeSpec :=
    { id := "save", kind := some "Button", widgetType := some "Button", binding := some "save" }
  let agree : NodeSpec :=
    { id := "agree", kind := some "CheckBox", widgetType := some "Checkbutton"
      hook := [⟨"invoke", .none⟩] }
  let extra : NodeSpec := { id := "extra", widgetType := some "Button" }
  let tree : NodeTree := .node { id := "main", widgetType := some "Frame" }
    [.node save [], .node agree []]
  let built := ((Plan.standard {}).build (some ⟨1⟩) tree).perform { toolkit := start }
  let made := ((Site.make .button extra {} (some ⟨1⟩)).perform built.2).2
  have hfree : tree.HandleFree ∧ extra.HandleFree := by
    refine ⟨⟨⟨?_, ?_, ?_⟩, ⟨⟨?_, ?_, ?_⟩, trivial⟩, ⟨⟨?_, ?_, ?_⟩, trivial⟩, trivial⟩, ?_, ?_, ?_⟩
    all_goals
      simp [save, agree, extra, Call.HandleFree, NodeSpec.sequenceCalls, Arguments.none]
  have hbegun : Commanded start [] { toolkit := start } := .begin
  have hbuilt := hbegun.build (Plan.standard {}) [] (some ⟨1⟩) tree (fun _ hspec => hspec) hfree.1
  have hmade : Commanded start [] made := hbuilt.make .button extra {} (some ⟨1⟩) hfree.2
  have hseen (site : Site Forest) (ref : ElementRef) (widgetClass : String) (widget : WidgetId)
      (hview : (site.elements.get? ref).map (fun element => (element.core.state,
        element.role.control?, element.core.spec.widgetType, element.widget)) =
          some (.built, some widgetClass, some widgetClass, some widget)) :
      ∃ element, site.elements.get? ref = some element ∧ element.IsControl ∧
        element.widget = some widget := by
    obtain ⟨element, hget, hparts⟩ := Option.map_eq_some_iff.mp hview
    simp only [Prod.mk.injEq] at hparts
    obtain ⟨hbuilt, hmeant, hdeclared, hown⟩ := hparts
    exact ⟨element, hget, ⟨hbuilt, widgetClass, hmeant, hdeclared⟩, hown⟩
  obtain ⟨saving, hsaving, hsave, hsaveOwn⟩ := hseen made ⟨1⟩ "Button" ⟨3⟩ (by decide +kernel)
  obtain ⟨agreeing, hagreeing, hagree, hagreeOwn⟩ :=
    hseen made ⟨2⟩ "Checkbutton" ⟨4⟩ (by decide +kernel)
  obtain ⟨other, hother, hextra, hextraOwn⟩ := hseen made ⟨3⟩ "Button" ⟨5⟩ (by decide +kernel)
  have hreachable : start.Reachable := ⟨_, rfl⟩
  have hnone : start.fired = [] := by decide +kernel
  -- What was built is not looked into any more.
  clear_value made start
  have hearly := hmade.set hsaving hsave |>.click hsaving hsave hsaveOwn .none
    |>.click hagreeing hagree hagreeOwn .none
  have hlate := hearly.set hagreeing hagree |>.click hagreeing hagree hagreeOwn .none
    |>.click hsaving hsave hsaveOwn .none |>.set hsaving hsave
    |>.click hsaving hsave hsaveOwn .none
  obtain ⟨heach, fires, hfired, -, hcount⟩ := clicks_fire_last_told hreachable hlate
  obtain ⟨-, widget, hwidget, hclick⟩ := heach ⟨3⟩ other hother hextra
  obtain rfl := Option.some.inj (hwidget.symm.trans hextraOwn)
  obtain ⟨left, hinvoke, hleft⟩ := hclick .none
  refine ⟨_, _, _, _, hlate, ?_, ?_, ?_, left, hinvoke, ?_⟩
  · rw [hfired, hnone]
    exact hcount [] ⟨1⟩ _ _ rfl
  · rw [hfired, hnone]
    exact hcount [_, _, _] ⟨2⟩ _ _ rfl
  · rw [hfired, hnone]
    exact hcount [_, _, _, _, _, _] ⟨1⟩ _ _ rfl
  · rw [hleft]
    exact List.append_nil _

end Commanded

end WidgetTree
