import WidgetTree.Proofs.Boxes.Build
import WidgetTree.Proofs.Boxes.Control
import WidgetTree.Proofs.Rows.Made

namespace WidgetTree

open Forest

/-- What is done on a bench: a widget is constructed that others may be built inside, a check box is
built, a row is added to a collection whose rows are check buttons, or the control at a place is
operated. -/
inductive Move
  | construct (widgetType : String) (parent : Option WidgetId) (args : Fields Value)
  | box (core : Core) (status : Option VariableId) (config : Config) (target : Option WidgetId)
  | row (core : Core) (collection : Collection)
    (hrows : collection.resolver.resolve (Collection.kind core) = .ok .checkbox) (spec : RowSpec)
  | operate (place : Nat) (operation : Control.Operation)

namespace Move

/-- A check box is built whose node tells its widget this state variable and operates it at once. -/
def Operates (move : Move) (handle : VariableId) : Prop :=
  match move with
  | box core .. => core.spec.Operates handle
  | construct .. | row .. | operate .. => False

/-- The operation, if it is on the control at this place. -/
def on? (place : Nat) : Move → Option Control.Operation
  | operate other operation => if other = place then some operation else none
  | construct .. | box .. | row .. => none

end Move

/-- The controls that were built in a forest, in order. -/
structure Bench where
  controls : List Control
  forest : Forest

namespace Bench

/-- The bench after a control was built, with it or, if that failed, without. -/
def join (bench : Bench) (outcome : Except BuildError Control) (left : Forest) : Bench where
  controls :=
    match outcome with
    | .ok control => bench.controls ++ [control]
    | .error _ => bench.controls
  forest := left

/-- The bench after a move, whether or not it succeeds. -/
def after (bench : Bench) : Move → Bench
  | .construct widgetType parent args =>
    { bench with forest := (bench.forest.construct widgetType parent args).2 }
  | .box core status config target =>
    let built := (Element.build config target).perform ⟨⟨core, .checkbox status⟩, bench.forest⟩
    bench.join (built.1.map fun _ => .box built.2.subject) built.2.toolkit
  | .row core collection _ spec =>
    let added := (Collection.addRowWith core spec).perform ⟨collection, bench.forest⟩
    bench.join (added.1.map .row) added.2.toolkit
  | .operate place operation =>
    match bench.controls[place]? with
    | none => bench
    | some control =>
      { bench with forest := ((control.operate operation).perform bench.forest).2 }

def run (bench : Bench) (moves : List Move) : Bench := moves.foldl after bench

end Bench

/-- The control's widget is live and names the control's state variable, which was created. -/
structure Control.Mounted (forest : Forest) (control : Control) (widget : WidgetId)
    (handle : VariableId) : Prop where
  core : control.core.widget = some widget
  status : control.status? = some handle
  record : ∃ record, forest.record? widget = some record ∧ record.Names handle
  created : 0 < handle.number ∧ handle.number ≤ forest.heldValues.length

namespace Control.Mounted

variable {forest left : Forest} {control : Control} {widget : WidgetId} {handle : VariableId}
  (hmounted : control.Mounted forest widget handle)
include hmounted

private theorem mem_live : widget ∈ forest.live := by
  obtain ⟨record, hrecord, -⟩ := hmounted.record
  exact mem_live_iff.mpr ⟨record, hrecord⟩

private theorem exists_held : ∃ value, forest.valueIn? handle = some value :=
  exists_valueIn? hmounted.created.1 hmounted.created.2

private theorem augment {reached : VariableId → Prop} (haugmented : Augmented reached forest left) :
    control.Mounted left widget handle where
  core := hmounted.core
  status := hmounted.status
  record := by
    rw [haugmented.records widget hmounted.mem_live]
    exact hmounted.record
  created := ⟨hmounted.created.1, hmounted.created.2.trans haugmented.count⟩

private theorem switches {other : WidgetId} {shared : VariableId} {value : Value}
    (hswitches : Switches other shared value forest left) :
    control.Mounted left widget handle where
  core := hmounted.core
  status := hmounted.status
  record := by
    obtain ⟨record, hrecord, hnames⟩ := hmounted.record
    obtain ⟨later, hlater, hsame⟩ := Forest.exists_settings (hswitches.settings widget) hrecord
    exact ⟨later, hlater, hnames.of_settings hsame⟩
  created := by
    rw [hswitches.count]
    exact hmounted.created

end Control.Mounted

namespace Bench

/-- Each control has a widget and a state variable of its own, and the widget names the variable. -/
structure Wired (bench : Bench) : Prop where
  sound : bench.forest.Sound
  mounted : ∀ control ∈ bench.controls, ∃ widget handle,
    control.Mounted bench.forest widget handle
  widgets : (bench.controls.map (·.core.widget)).Nodup
  handles : (bench.controls.map Control.status?).Nodup

/-- All that a move can do: something is built, a control or not, and nothing is done to the
controls that were there; or a control is operated. -/
inductive Step (bench : Bench) (move : Move) : Bench → Prop
  | aside {left : Forest} (hon : ∀ place, move.on? place = none)
      (haugmented : Augmented move.Operates bench.forest left) :
      Step bench move { bench with forest := left }
  | built {left : Forest} {control : Control} {widget : WidgetId} {handle : VariableId}
      (hon : ∀ place, move.on? place = none)
      (haugmented : Augmented move.Operates bench.forest left)
      (hwidget : control.core.widget = some widget) (hstatus : control.status? = some handle)
      (hfitted : Fitted widget handle bench.forest left) :
      Step bench move ⟨bench.controls ++ [control], left⟩
  | nowhere {place : Nat} {operation : Control.Operation} (hmove : move = .operate place operation)
      (hbeyond : bench.controls[place]? = none) : Step bench move bench
  | operated {place : Nat} {operation : Control.Operation} {control : Control}
      (hmove : move = .operate place operation) (hcontrol : bench.controls[place]? = some control) :
      Step bench move
        { bench with forest := ((control.operate operation).perform bench.forest).2 }

private theorem step_after {bench : Bench} (hsound : bench.forest.Sound) (move : Move) :
    bench.Step move (bench.after move) := by
  cases move with
  | construct widgetType parent args =>
    rw [after]
    rcases construct_cases widgetType parent args bench.forest with
      ⟨error, hrefused⟩ | ⟨-, hlive, hplanted⟩
    · rw [hrefused]
      exact .aside (fun _ => rfl) (.refl hsound)
    · rw [hplanted]
      exact .aside (fun _ => rfl) (.of_plant hsound hlive widgetType args)
  | box core status config target =>
    let work : Work Element Forest := ⟨⟨core, .checkbox status⟩, bench.forest⟩
    rcases hbuild : (Element.build config target).perform work with ⟨result, box, left⟩
    obtain ⟨haugmented, hbuilt⟩ := Element.buildCheckbox_augments hsound hbuild
    rw [after, hbuild]
    cases result with
    | error error => exact .aside (fun _ => rfl) haugmented
    | ok =>
      obtain ⟨rfl, hcount, -, record, hrecord, hboxed⟩ := hbuilt rfl
      exact .built (fun _ => rfl) haugmented rfl rfl (hboxed.fitted hsound hcount hrecord)
  | row core collection hrows spec =>
    rcases Collection.addRowWith_checkbox_cases hsound hrows spec with
      ⟨error, hrefused⟩ | ⟨parent, hlive, hmade⟩
    · rw [after, hrefused]
      exact .aside (fun _ => rfl) (.refl hsound)
    · rw [after, hmade]
      refine .built (fun _ => rfl) (makeRow_augmented hsound hlive spec) ?_ ?_
        (makeRow_fitted hsound hlive spec)
      · rw [makeRow_eq]
        rfl
      · rw [makeRow_eq]
        rfl
  | operate place operation =>
    rw [after]
    cases hcontrol : bench.controls[place]? with
    | none => exact .nowhere rfl hcontrol
    | some control => exact .operated rfl hcontrol

namespace Wired

private theorem of_nil {forest : Forest} (hsound : forest.Sound) : Wired ⟨[], forest⟩ where
  sound := hsound
  mounted _ hcontrol := absurd hcontrol List.not_mem_nil
  widgets := List.nodup_nil
  handles := List.nodup_nil

variable {bench : Bench} {left : Forest} (hwired : bench.Wired)
include hwired

private theorem augment {reached : VariableId → Prop}
    (haugmented : Augmented reached bench.forest left) : Wired { bench with forest := left } where
  sound := haugmented.sound
  mounted control hcontrol := by
    obtain ⟨widget, handle, hmounted⟩ := hwired.mounted control hcontrol
    exact ⟨widget, handle, hmounted.augment haugmented⟩
  widgets := hwired.widgets
  handles := hwired.handles

/-- A control with a new widget and a new variable joins the others. -/
theorem join {reached : VariableId → Prop} {control : Control} {widget : WidgetId}
    {handle : VariableId} (haugmented : Augmented reached bench.forest left)
    (hwidget : control.core.widget = some widget) (hstatus : control.status? = some handle)
    (hfitted : Fitted widget handle bench.forest left) :
    Wired ⟨bench.controls ++ [control], left⟩ where
  sound := haugmented.sound
  mounted other hother := by
    rcases List.mem_append.mp hother with hold | hnew
    · exact (hwired.augment haugmented).mounted other hold
    · obtain rfl := List.mem_singleton.mp hnew
      have hpositive : 0 < handle.number := Nat.lt_of_le_of_lt (Nat.zero_le _) hfitted.created
      exact ⟨widget, handle, hwidget, hstatus, hfitted.named, hpositive, hfitted.held⟩
  widgets := by
    rw [List.map_append, List.map_singleton, hwidget, ← List.concat_eq_append,
      List.nodup_concat]
    refine ⟨fun hmem => ?_, hwired.widgets⟩
    obtain ⟨other, hother, hsame⟩ := List.mem_map.mp hmem
    obtain ⟨known, shared, hmounted⟩ := hwired.mounted other hother
    obtain rfl := Option.some.inj (hmounted.core.symm.trans hsame)
    exact hfitted.fresh hmounted.mem_live
  handles := by
    rw [List.map_append, List.map_singleton, hstatus, ← List.concat_eq_append, List.nodup_concat]
    refine ⟨fun hmem => ?_, hwired.handles⟩
    obtain ⟨other, hother, hsame⟩ := List.mem_map.mp hmem
    obtain ⟨known, shared, hmounted⟩ := hwired.mounted other hother
    obtain rfl := Option.some.inj (hmounted.status.symm.trans hsame)
    exact absurd hmounted.created.2 (Nat.not_le_of_gt hfitted.created)

private theorem switches {widget : WidgetId} {handle : VariableId} {value : Value}
    (hswitches : Switches widget handle value bench.forest left) :
    Wired { bench with forest := left } where
  sound := hswitches.touches.sound hwired.sound
  mounted control hcontrol := by
    obtain ⟨known, shared, hmounted⟩ := hwired.mounted control hcontrol
    exact ⟨known, shared, hmounted.switches hswitches⟩
  widgets := hwired.widgets
  handles := hwired.handles

/-- Operating a control reaches no state variable but its own. -/
theorem operated {place : Nat} {control : Control}
    (hcontrol : bench.controls[place]? = some control) (operation : Control.Operation) :
    ∃ widget handle value, control.Mounted bench.forest widget handle ∧
      Switches widget handle value bench.forest
        ((control.operate operation).perform bench.forest).2 := by
  obtain ⟨widget, handle, hmounted⟩ := hwired.mounted control (List.mem_of_getElem? hcontrol)
  obtain ⟨record, hrecord, hnames⟩ := hmounted.record
  obtain ⟨value, hheld⟩ := hmounted.exists_held
  exact ⟨widget, handle, _, hmounted,
    Control.operate_switches hmounted.core hmounted.status hrecord hnames hheld operation⟩

private theorem after (move : Move) : (bench.after move).Wired := by
  have hstep := step_after hwired.sound move
  generalize bench.after move = next at hstep
  cases hstep with
  | aside hon haugmented => exact hwired.augment haugmented
  | built hon haugmented hwidget hstatus hfitted =>
    exact hwired.join haugmented hwidget hstatus hfitted
  | nowhere hmove hbeyond => exact hwired
  | operated hmove hcontrol =>
    obtain ⟨widget, handle, value, -, hswitches⟩ := hwired.operated hcontrol _
    exact hwired.switches hswitches

private theorem run (moves : List Move) : (bench.run moves).Wired := by
  induction moves generalizing bench with
  | nil => exact hwired
  | cons first rest ih => exact ih (hwired.after first)

/-- Controls at different places have different widgets and different variables. -/
theorem apart {place other : Nat} {control neighbour : Control}
    (hcontrol : bench.controls[place]? = some control)
    (hneighbour : bench.controls[other]? = some neighbour) (hplaces : other ≠ place) :
    neighbour.core.widget ≠ control.core.widget ∧ neighbour.status? ≠ control.status? := by
  have hdiffer {α : Type} {part : Control → α} (hnodup : (bench.controls.map part).Nodup) :
      part neighbour ≠ part control := by
    intro hsame
    have hlength : other < (bench.controls.map part).length := by
      rw [List.length_map]
      exact (List.getElem?_eq_some_iff.mp hneighbour).1
    refine hplaces ((List.getElem?_inj hlength hnodup).mp ?_)
    rw [List.getElem?_map, List.getElem?_map, hcontrol, hneighbour, Option.map_some,
      Option.map_some, hsame]
  exact ⟨hdiffer hwired.widgets, hdiffer hwired.handles⟩

end Wired

/-- At a place there is a control whose widget is a check button that writes 1 and 0 to its
variable, and the variable holds one of the two. -/
structure Shows (bench : Bench) (place : Nat) (widget : WidgetId) (handle : VariableId)
    (checked : Bool) : Prop where
  control : ∃ control, bench.controls[place]? = some control ∧
    control.core.widget = some widget ∧ control.status? = some handle
  shows : bench.forest.Shows widget handle (.int 1) (.int 0) (.ofChecked checked)

namespace Shows

variable {bench : Bench} {place : Nat} {widget : WidgetId} {handle : VariableId} {checked : Bool}
  (hwired : bench.Wired) (hshows : bench.Shows place widget handle checked)
include hwired hshows

/-- Building another control is nothing to this one, unless its node tells it the variable of this
one and operates it at once. -/
theorem augment {move : Move} (hoperates : ¬ move.Operates handle) {left : Forest}
    (haugmented : Augmented move.Operates bench.forest left) :
    left.Shows widget handle (.int 1) (.int 0) (.ofChecked checked) := by
  obtain ⟨control, hcontrol, hwidget, hstatus⟩ := hshows.control
  obtain ⟨known, shared, hmounted⟩ := hwired.mounted control (List.mem_of_getElem? hcontrol)
  obtain rfl := Option.some.inj (hmounted.core.symm.trans hwidget)
  obtain rfl := Option.some.inj (hmounted.status.symm.trans hstatus)
  refine hshows.shows.of_settings ?_ ?_
  · rw [haugmented.records known hmounted.mem_live]
  · rw [haugmented.values shared hoperates hmounted.created.2]
    exact hshows.shows.held

/-- Operating a control changes what it shows as the operation is named, and nothing of what the
others show. -/
theorem operate {other : Nat} {control : Control}
    (hcontrol : bench.controls[other]? = some control) (operation : Control.Operation) :
    Shows { bench with forest := ((control.operate operation).perform bench.forest).2 } place widget
      handle (if other = place then operation.onStatus checked else checked) := by
  obtain ⟨own, hown, hwidget, hstatus⟩ := hshows.control
  refine ⟨⟨own, hown, hwidget, hstatus⟩, ?_⟩
  split
  · next hplace =>
    subst hplace
    obtain rfl := Option.some.inj (hcontrol.symm.trans hown)
    obtain ⟨record, hrecord, hbutton, hnames, hon, hoff⟩ := hshows.shows.record
    have hswitches := Control.operate_switches hwidget hstatus hrecord hnames hshows.shows.held
      operation
    rw [operation.onValue_of_button hbutton hon hoff] at hswitches
    exact hshows.shows.switches hswitches
  · next hplace =>
    obtain ⟨known, shared, value, hmounted, hswitches⟩ := hwired.operated hcontrol operation
    have hapart := (hwired.apart hown hcontrol hplace).2
    refine hshows.shows.of_settings (hswitches.settings widget) ?_
    rw [hswitches.values, if_neg, hshows.shows.held]
    rintro rfl
    exact hapart (hmounted.status.trans hstatus.symm)

private theorem after {move : Move} (hoperates : ¬ move.Operates handle) :
    (bench.after move).Shows place widget handle
      ((move.on? place).elim checked (·.onStatus checked)) := by
  have hstep := step_after hwired.sound move
  generalize bench.after move = next at hstep
  cases hstep with
  | aside hon haugmented =>
    rw [hon]
    exact ⟨hshows.control, hshows.augment hwired hoperates haugmented⟩
  | built hon haugmented hwidget hstatus hfitted =>
    rw [hon]
    refine ⟨?_, hshows.augment hwired hoperates haugmented⟩
    obtain ⟨control, hcontrol, hcore⟩ := hshows.control
    have hlength := (List.getElem?_eq_some_iff.mp hcontrol).1
    exact ⟨control, (List.getElem?_append_left hlength).trans hcontrol, hcore⟩
  | @nowhere other operation hmove hbeyond =>
    have hplace : other ≠ place := by
      rintro rfl
      obtain ⟨control, hcontrol, -⟩ := hshows.control
      rw [hbeyond] at hcontrol
      cases hcontrol
    rw [hmove, Move.on?, if_neg hplace]
    exact hshows
  | @operated other operation control hmove hcontrol =>
    have hoperated := hshows.operate hwired hcontrol operation
    rw [hmove, Move.on?]
    split at hoperated
    · next hplace =>
      rw [if_pos hplace]
      exact hoperated
    · next hplace =>
      rw [if_neg hplace]
      exact hoperated

/-- Whatever else is done, a control shows what its own operations make of what it showed. -/
theorem run {moves : List Move} (hoperates : ∀ move ∈ moves, ¬ move.Operates handle) :
    (bench.run moves).Shows place widget handle
      ((moves.filterMap (Move.on? place)).foldl (fun status operation => operation.onStatus status)
        checked) := by
  induction moves generalizing bench checked with
  | nil => exact hshows
  | cons first rest ih =>
    have hfirst := hshows.after hwired (hoperates first List.mem_cons_self)
    have hrest := ih (hwired.after first) hfirst fun move hmove =>
      hoperates move (List.mem_cons_of_mem _ hmove)
    rw [List.filterMap_cons]
    cases hon : first.on? place with
    | none =>
      rw [hon] at hrest
      exact hrest
    | some operation =>
      rw [hon] at hrest
      exact hrest

end Shows

/-- A check box that was just built shows that it is not checked, whatever its node asked for. -/
theorem shows_of_build {bench : Bench} (hwired : bench.Wired) {core : Core}
    {status : Option VariableId} {config : Config} {target : Option WidgetId} {box : Element}
    {left : Forest} (hbutton : core.spec.widgetType = some "Checkbutton")
    (hbuild : (Element.build config target).perform ⟨⟨core, .checkbox status⟩, bench.forest⟩ =
      (.ok (), ⟨box, left⟩)) :
    ∃ widget handle, (Control.box box).status? = some handle ∧
      Wired ⟨bench.controls ++ [.box box], left⟩ ∧
      Shows ⟨bench.controls ++ [.box box], left⟩ bench.controls.length widget handle false := by
  obtain ⟨haugmented, hbuilt⟩ := Element.buildCheckbox_augments hwired.sound hbuild
  obtain ⟨rfl, hcount, hheld, record, hrecord, hboxed⟩ := hbuilt rfl
  have hfitted := hboxed.fitted hwired.sound hcount hrecord
  have htype : record.widgetType = "Checkbutton" :=
    Option.some.inj (hboxed.widgetType.symm.trans hbutton)
  refine ⟨_, _, rfl, hwired.join haugmented rfl rfl hfitted,
    ⟨.box _, List.getElem?_concat_length, rfl, rfl⟩, ?_, hheld⟩
  exact ⟨record, hrecord, htype, hboxed.names, hboxed.onValue, hboxed.offValue⟩

/-- A check box whose widget is a check button is not checked when it is built, whatever its node
asks for and whatever was done before. From then on it shows what its own operations make of that,
whichever other check boxes and rows are operated in between. Others may be built in between, too,
and told the variable of this box, so long as they are not operated before they are built: their
nodes do not call methods that concern it in their configuration sequence then. -/
theorem status_of_operations {forest : Forest} (hreachable : forest.Reachable)
    (earlier : List Move) {core : Core} {status : Option VariableId} {config : Config}
    {target : Option WidgetId} {box : Element} {left : Forest}
    (hbutton : core.spec.widgetType = some "Checkbutton")
    (hbuild : (Element.build config target).perform
      ⟨⟨core, .checkbox status⟩, (run ⟨[], forest⟩ earlier).forest⟩ = (.ok (), ⟨box, left⟩)) :
    box.status.perform left = (.ok false, left) ∧
    ∀ later : List Move,
      (∀ move ∈ later, ∀ handle ∈ (Control.box box).status?, ¬ move.Operates handle) →
      let before := (run ⟨[], forest⟩ earlier).controls
      let final := run ⟨before ++ [.box box], left⟩ later
      box.status.perform final.forest =
        (.ok ((later.filterMap (Move.on? before.length)).foldl
          (fun checked operation => operation.onStatus checked) false), final.forest) := by
  have hwired := (Wired.of_nil hreachable.sound).run earlier
  obtain ⟨widget, handle, hstatus, hjoined, hshows⟩ := shows_of_build hwired hbutton hbuild
  have hshown {bench : Bench} {place : Nat} {checked : Bool}
      (hshows : bench.Shows place widget handle checked) :
      box.status.perform bench.forest = (.ok checked, bench.forest) := by
    rw [Control.perform_status_of_held hstatus hshows.shows.held, Value.truthy_ofChecked]
  refine ⟨hshown hshows, fun later hoperates => ?_⟩
  exact hshown (hshows.run hjoined fun move hmove => hoperates move hmove handle hstatus)

/-- A window with a frame in it. -/
def bareForest : Forest :=
  Forest.empty.serveAll [.construct "Tk" none [], .construct "Frame" (some ⟨1⟩) []]

/-- A check box and a row that were built before. -/
def neighbours : List Move :=
  [.box (.ofSpec { id := "news", widgetType := some "Checkbutton" }) none {} (some ⟨1⟩),
    .row { spec := { id := "list", kind := some "ListBoxCheckboxes" }, widget := some ⟨2⟩ } {} rfl
      { id := "row", text := "Row" }]

/-- A check box whose node tells it the variable of the first, other values for on and off, and to
be selected. -/
def boldBox : Core := .ofSpec
  { id := "bold"
    widgetType := some "Checkbutton"
    constructorArgs := [("variable", .stateVariable ⟨1⟩), ("onvalue", .string "no")]
    sequence := some (.steps [⟨"select", .none⟩,
      ⟨"configure", ⟨[], [("variable", .null), ("offvalue", .string "yes")]⟩⟩]) }

/-- A check box whose node tells it the variable of this one. -/
def lateBox : Core := .ofSpec
  { id := "late"
    widgetType := some "Checkbutton"
    constructorArgs := [("variable", .stateVariable ⟨3⟩)] }

/-- What is done to the box and to others afterwards. -/
def handled : List Move :=
  [.operate 2 (.call ⟨"select", .none⟩ (by decide)), .operate 0 (.set true),
    .box lateBox none {} (some ⟨1⟩), .operate 2 (.call ⟨"toggle", .none⟩ (by decide)),
    .operate 1 (.set false),
    .operate 2 (.call ⟨"invoke", .none⟩ (by decide)), .operate 3 (.set false)]

private theorem not_operates_handled {move : Move} (hmove : move ∈ handled) (handle : VariableId) :
    ¬ move.Operates handle := by
  simp only [handled, List.mem_cons, List.not_mem_nil, or_false] at hmove
  rcases hmove with rfl | rfl | rfl | rfl | rfl | rfl | rfl
  · exact id
  · exact id
  · rintro ⟨-, sequence, hsequence, -⟩
    cases hsequence
  all_goals exact id

/-- The box is selected, then toggled and toggled again by clicks. -/
theorem boldBox_among_neighbours :
    let bench := run ⟨[], bareForest⟩ neighbours
    ∃ box left, (Element.build {} (some ⟨1⟩)).perform ⟨⟨boldBox, .checkbox none⟩, bench.forest⟩ =
        (.ok (), ⟨box, left⟩) ∧
      box.status.perform left = (.ok false, left) ∧
      let final := run ⟨bench.controls ++ [.box box], left⟩ handled
      box.status.perform final.forest = (.ok true, final.forest) := by
  intro bench
  have hreachable : bareForest.Reachable := ⟨_, rfl⟩
  have hsucceeds : ((Element.build {} (some ⟨1⟩)).perform
      ⟨⟨boldBox, .checkbox none⟩, bench.forest⟩).1.isOk = true := by decide +kernel
  have hplace : bench.controls.length = 2 := by decide +kernel
  rcases hbuild : (Element.build {} (some ⟨1⟩)).perform ⟨⟨boldBox, .checkbox none⟩, bench.forest⟩
    with ⟨_ | _, box, left⟩
  · rw [hbuild] at hsucceeds
    cases hsucceeds
  · obtain ⟨hfresh, hlater⟩ := status_of_operations hreachable neighbours rfl hbuild
    have hhandled := hlater handled fun move hmove handle _ => not_operates_handled hmove handle
    dsimp only at hhandled
    rw [hplace] at hhandled
    exact ⟨box, left, rfl, hfresh, hhandled⟩

/-- A check box whose node tells it the variable that was created first, and to be selected. -/
def borrowingBox : Core := .ofSpec
  { id := "borrowing"
    widgetType := some "Checkbutton"
    constructorArgs := [("variable", .stateVariable ⟨1⟩)]
    sequence := some (.steps [⟨"select", .none⟩]) }

/-- Such a box is built, and toggled afterwards. -/
def borrowed : List Move :=
  [.box borrowingBox none {} (some ⟨1⟩), .operate 1 (.call ⟨"toggle", .none⟩ (by decide))]

/-- A check box that nothing was done to is checked once another one was built that selects itself
before it gets a variable of its own. -/
theorem checked_by_borrowing :
    let plain : Core := .ofSpec { id := "plain", widgetType := some "Checkbutton" }
    let built := (Element.build {} (some ⟨1⟩)).perform ⟨⟨plain, .checkbox none⟩, bareForest⟩
    let final := run ⟨[.box built.2.subject], built.2.toolkit⟩ borrowed
    built.1.isOk = true ∧
      (built.2.subject.status.perform built.2.toolkit).1.toOption = some false ∧
      final.controls.length = 2 ∧ borrowed.filterMap (Move.on? 0) = [] ∧
      (built.2.subject.status.perform final.forest).1.toOption = some true := by
  refine ⟨?_, ?_, ?_, rfl, ?_⟩ <;> decide +kernel

end Bench

end WidgetTree
