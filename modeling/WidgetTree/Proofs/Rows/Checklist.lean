import WidgetTree.Proofs.Build.Sprout
import WidgetTree.Proofs.Rows.Fresh
import WidgetTree.Proofs.Rows.Standing

namespace WidgetTree

namespace RowRequest

/-- What the request makes of the list that says which rows are checked. -/
def onStates (request : RowRequest) (states : List Bool) : List Bool :=
  match request with
  | addRow _ | addRowWith _ => states ++ [true]
  | setChecked place checked => states.set place checked
  | call place made => states.modify place (ticked made.method)
  | clear => []

/-- Rows are made without arguments of their own, and their buttons are called by methods that
concern their state. -/
def Plain : RowRequest → Prop
  | addRow _ | setChecked .. | clear => True
  | addRowWith spec => spec.args = []
  | call _ made => made.method ∈ tickMethods

/-- The row that the request is about, if it is about one. -/
def place? : RowRequest → Option Nat
  | setChecked place _ | call place _ => some place
  | addRow _ | addRowWith _ | clear => none

/-- A request about one row changes nothing of the others. -/
theorem getElem?_onStates {request : RowRequest} {place : Nat}
    (hplace : request.place? = some place) (states : List Bool) {spot : Nat}
    (hspot : spot ≠ place) :
    (request.onStates states)[spot]? = states[spot]? := by
  cases request with
  | setChecked =>
    cases hplace
    rw [onStates, List.getElem?_set_ne hspot.symm]
  | call =>
    cases hplace
    rw [onStates, List.getElem?_modify]
    simp [hspot.symm]
  | addRow | addRowWith | clear => cases hplace

end RowRequest

/-- What orders make of the list of one element, which is not changed by the orders to others. -/
def statesAfter (ref : ElementRef) (orders : List RowOrder) (states : List Bool) : List Bool :=
  orders.foldl (fun states order =>
    if order.element = ref then order.request.onStates states else states) states

section Reading

variable {oldest : Nat} {forest : Forest}

private theorem Row.perform_isChecked {row : Row} (hstands : row.Stands oldest forest) :
    row.isChecked.perform forest = (.ok (some (row.checkedIn forest)), forest) := by
  obtain ⟨holder, button, handle, hrow⟩ := hstands
  obtain ⟨checked, hheld⟩ := hrow.held
  rw [hrow.checkedIn_eq, hheld]
  exact Row.perform_isChecked_of_held hheld hrow.state

namespace Collection

private theorem perform_checkedRows {rows : List Row}
    (hrows : ∀ row ∈ rows, row.Stands oldest forest) :
    (checkedRows rows).perform forest = (.ok (rows.map (Row.checkedIn forest)), forest) := by
  induction rows with
  | nil => rfl
  | cons row rest ih =>
    have hrow := Row.perform_isChecked (hrows row List.mem_cons_self)
    have hrest := ih fun other hother => hrows other (List.mem_cons_of_mem _ hother)
    rw [checkedRows, Act.perform_bind_ok hrow, Act.perform_bind_ok hrest]
    rfl

variable {core : Core} {collection : Collection}

private theorem resolve_checkbox (hstandard : collection.resolver = .standard)
    (hkind : kind core = .listBoxCheckboxes) :
    collection.resolver.resolve (kind core) = .ok .checkbox := by
  rw [hstandard, hkind]
  rfl

private theorem perform_rowStates (hstandard : collection.resolver = .standard)
    (hkind : kind core = .listBoxCheckboxes)
    (hrows : ∀ row ∈ collection.rows, row.Stands oldest forest) :
    (rowStates core collection).perform forest =
      (.ok (collection.rows.map (Row.checkedIn forest)), forest) := by
  rw [rowStates, Act.perform_bind, Act.perform_ofExcept, resolve_checkbox hstandard hkind]
  exact perform_checkedRows hrows

end Collection

end Reading

/-- A request was served to the rows of one element: they are these rows now and show these states,
while the rows of all other elements show what they showed. Old widgets have stayed. -/
structure Served (oldest : Nat) (rows : ElementRef → List Row) (ref : ElementRef) (forest : Forest)
    (kept : List Row) (left : Forest) (states : List Bool) : Prop where
  standing : Standing oldest (Function.update rows ref kept) left
  states : kept.map (Row.checkedIn left) = states
  others : ∀ other, other ≠ ref → ∀ row ∈ rows other, row.checkedIn left = row.checkedIn forest
  live : ∀ widget ∈ forest.live, widget.number ≤ oldest → widget ∈ left.live

namespace Standing

variable {oldest : Nat} {rows : ElementRef → List Row} {ref : ElementRef} {forest left : Forest}
variable (hstanding : Standing oldest rows forest)
include hstanding

private theorem served_nothing :
    Served oldest rows ref forest (rows ref) forest ((rows ref).map (Row.checkedIn forest)) where
  standing := by
    rw [Function.update_eq_self]
    exact hstanding
  states := rfl
  others _ _ _ _ := rfl
  live _ hlive _ := hlive

private theorem served_add {parent : WidgetId} (hold : parent.number ≤ oldest) {made : Row}
    (hmade : Forest.Furnished parent made forest left) :
    Served oldest rows ref forest (rows ref ++ [made]) left
      ((rows ref).map (Row.checkedIn forest) ++ [true]) := by
  obtain ⟨hnext, hchecked, hkept⟩ := hstanding.add hold hmade ref
  refine ⟨hnext, ?_, fun other _ => hkept other, fun widget hlive _ => (hmade.kept widget hlive).1⟩
  rw [List.map_append, List.map_singleton, hchecked, List.map_congr_left (hkept ref)]

private theorem served_write {place : Nat} {row : Row} (hrow : (rows ref)[place]? = some row)
    {holder button : WidgetId} {handle : VariableId}
    (hstands : row.StandsAs oldest forest holder button handle)
    (htouches : Forest.Touches button forest left)
    (hrecord : ∃ record, left.record? button = some record ∧ record.Ticks handle)
    {change : Bool → Bool} (hvalues : ∀ other, left.valueIn? other =
      if other = handle then some (.ofChecked (change (row.checkedIn forest)))
      else forest.valueIn? other) :
    Served oldest rows ref forest (rows ref) left
      (((rows ref).map (Row.checkedIn forest)).modify place change) := by
  obtain ⟨hnext, hshown⟩ := hstanding.write hrow hstands htouches hrecord hvalues
  refine ⟨?_, ?_, ?_, ?_⟩
  · rw [Function.update_eq_self]
    exact hnext
  · apply List.ext_getElem?
    intro spot
    rw [List.getElem?_modify, List.getElem?_map, List.getElem?_map]
    cases hspot : (rows ref)[spot]? with
    | none => rfl
    | some neighbour =>
      simp only [Option.map_some, Option.map_eq_map, Option.some.injEq]
      rw [hshown ref spot neighbour hspot]
      by_cases hsame : place = spot
      · subst hsame
        obtain rfl := Option.some.inj (hrow.symm.trans hspot)
        simp
      · simp [hsame, Ne.symm hsame]
  · intro other hother neighbour hmem
    obtain ⟨spot, hspot⟩ := List.getElem?_of_mem hmem
    rw [hshown other spot neighbour hspot, if_neg fun hboth => hother hboth.1]
  · rw [htouches.live]
    exact fun widget hlive _ => hlive

private theorem served_clear :
    Served oldest rows ref forest [] ((rows ref).foldl Forest.withoutRow forest) [] := by
  obtain ⟨hnext, hkept, hlive⟩ := hstanding.clear rfl
  exact ⟨hnext, rfl, hkept, hlive⟩

end Standing

/-- Writing to the variable of a row that stands succeeds. -/
theorem Row.perform_setChecked {row : Row} {oldest : Nat} {forest : Forest}
    {holder button : WidgetId} {handle : VariableId}
    (hstands : row.StandsAs oldest forest holder button handle) (checked : Bool) :
    ∃ left, (row.setChecked checked).perform forest = (.ok (), left) ∧
      Forest.Writes handle (.ofChecked checked) forest left := by
  obtain ⟨current, hheld⟩ := hstands.held
  obtain ⟨left, hwrite, hwrites⟩ := Forest.writeVariable_of_held hheld (.ofChecked checked)
  refine ⟨left, ?_, hwrites⟩
  rw [perform_setChecked_of_held hheld hstands.state]
  exact congrArg _ (congrArg Prod.snd hwrite)

/-- An act on the rows of one element succeeds and serves them. -/
def Serves (oldest : Nat) (rows : ElementRef → List Row) (ref : ElementRef)
    (collection : Collection) (forest : Forest) (act : Act (Work Collection Forest) Unit)
    (states : List Bool) : Prop :=
  ∃ kept left, act.perform ⟨collection, forest⟩ =
      (.ok (), ⟨{ collection with rows := kept }, left⟩) ∧
    Served oldest rows ref forest kept left states

section Requests

variable {oldest : Nat} {rows : ElementRef → List Row} {ref : ElementRef} {forest : Forest}
variable (hstanding : Standing oldest rows forest) {core : Core} {collection : Collection}
variable (hrows : rows ref = collection.rows)
include hstanding hrows

private theorem serves_added {parent : WidgetId} (hstandard : collection.resolver = .standard)
    (hkind : Collection.kind core = .listBoxCheckboxes) (hwidget : core.widget = some parent)
    (hparent : parent ∈ forest.live) (hold : parent.number ≤ oldest) {spec : RowSpec}
    (hargs : spec.args = []) {request : RowRequest}
    (hasks : request.spec? core collection.rows = some spec) :
    Serves oldest rows ref collection forest (request.act core)
      (collection.rows.map (Row.checkedIn forest) ++ [true]) := by
  have hresolve := Collection.resolve_checkbox hstandard hkind
  have hperform := Collection.perform_addRowWith_of_live hstanding.sound hresolve
    RowStrategy.plain_checkbox hwidget hparent spec
  have hmade := Forest.makeRow_furnished hstanding.sound hparent hargs
  have hserved := @Standing.served_add oldest rows ref forest _ hstanding parent hold _ hmade
  rw [hrows] at hserved
  refine ⟨_, _, ?_, hserved⟩
  rw [RowRequest.perform_act_of_asks hasks, hperform]
  rfl

/-- What a request to one row does is no matter where there is no such row. -/
theorem serves_onRow {place : Nat} {act : Row → Act Forest Unit} {change : Bool → Bool}
    (hact : ∀ row holder button handle, row.StandsAs oldest forest holder button handle →
      ∃ left, (act row).perform forest = (.ok (), left) ∧ Forest.Touches button forest left ∧
        (∃ record, left.record? button = some record ∧ record.Ticks handle) ∧
        ∀ other, left.valueIn? other =
          if other = handle then some (.ofChecked (change (row.checkedIn forest)))
          else forest.valueIn? other) :
    Serves oldest rows ref collection forest (Collection.onRow place act)
      ((collection.rows.map (Row.checkedIn forest)).modify place change) := by
  cases hrow : collection.rows[place]? with
  | none =>
    have hbeyond := List.getElem?_eq_none_iff.mp hrow
    have hserved := @Standing.served_nothing oldest rows ref forest hstanding
    rw [List.modify_eq_self (by rwa [List.length_map])]
    rw [hrows] at hserved
    exact ⟨_, _, Collection.perform_onRow_none hrow _, hserved⟩
  | some row =>
    rw [← hrows] at hrow
    obtain ⟨holder, button, handle, hstands⟩ :=
      hstanding.stands ref row (List.mem_of_getElem? hrow)
    obtain ⟨left, hperform, htouches, hrecord, hvalues⟩ := hact row holder button handle hstands
    have hserved := hstanding.served_write hrow hstands htouches hrecord hvalues
    rw [hrows] at hrow hserved
    refine ⟨_, left, ?_, hserved⟩
    rw [Collection.perform_onRow_some hrow, hperform]

/-- A request to a checklist succeeds, and does what it should to the list of states. -/
theorem RowRequest.serves_of_plain {parent : WidgetId} (hstandard : collection.resolver = .standard)
    (hkind : Collection.kind core = .listBoxCheckboxes) (hwidget : core.widget = some parent)
    (hparent : parent ∈ forest.live) (hold : parent.number ≤ oldest) {request : RowRequest}
    (hplain : request.Plain) :
    Serves oldest rows ref collection forest (request.act core)
      (request.onStates (collection.rows.map (Row.checkedIn forest))) := by
  have hadded {spec : RowSpec} (hargs : spec.args = [])
      (hasks : request.spec? core collection.rows = some spec) :=
    serves_added hstanding hrows hstandard hkind hwidget hparent hold hargs hasks
  cases request with
  | addRow => exact hadded rfl rfl
  | addRowWith => exact hadded hplain rfl
  | clear =>
    have hserved := @Standing.served_clear oldest rows ref forest hstanding
    rw [hrows] at hserved
    exact ⟨_, _, Collection.perform_clear collection forest, hserved⟩
  | setChecked place checked =>
    have hset : ((collection.rows.map (Row.checkedIn forest)).modify place fun _ => checked) =
        (collection.rows.map (Row.checkedIn forest)).set place checked := List.modify_eq_set ..
    rw [act, onStates, ← hset]
    refine serves_onRow hstanding hrows ?_
    intro row holder button handle hstands
    obtain ⟨left, hperform, hwrites⟩ := Row.perform_setChecked hstands checked
    have htouches := (row.setChecked_serves checked forest button).touches
    rw [hperform] at htouches
    refine ⟨left, hperform, htouches, ?_, hwrites.values⟩
    rw [hwrites.records]
    exact hstands.record
  | call place made =>
    refine serves_onRow hstanding hrows ?_
    intro row holder button handle hstands
    obtain ⟨record, hrecord, hticks⟩ := hstands.record
    obtain ⟨checked, hheld⟩ := hstands.held
    obtain ⟨left, hinvoke, hnoted, hvalues⟩ := Forest.invoke_of_ticks hrecord hticks hheld hplain
    have htouches := (Forest.invoke_spec button made forest).1
    rw [hinvoke] at htouches
    have hchecked : row.checkedIn forest = checked := by
      rw [hstands.checkedIn_eq, hheld]
      simp
    rw [hchecked]
    refine ⟨left, ?_, htouches, ⟨_, hnoted, hticks.noteCall made⟩, hvalues⟩
    rw [Act.perform_discard, Core.perform_invoke hstands.content, hinvoke]
    rfl

end Requests

namespace Site

/-- The element is a list box of check buttons with a live widget, whose rows are made as the
standard resolver says. -/
structure Checklist (site : Site Forest) (ref : ElementRef) (core : Core) (collection : Collection)
    (widget : WidgetId) : Prop where
  found : site.elements.get? ref = some ⟨core, .collection collection⟩
  resolver : collection.resolver = .standard
  kind : Collection.kind core = .listBoxCheckboxes
  built : core.widget = some widget
  live : widget ∈ site.toolkit.live

/-- The rows of the elements that are watched. -/
def rowsIn (refs : List ElementRef) (site : Site Forest) (ref : ElementRef) : List Row :=
  if ref ∈ refs then ((site.elements.get? ref).map Element.rows).getD [] else []

/-- What a collection answers when it is asked about its rows. -/
def answer {α : Type} (site : Site Forest) (ref : ElementRef)
    (question : Core → Collection → Act Forest α) : Option (Except BuildError α) := do
  let element ← site.elements.get? ref
  let collection ← element.collection?
  return ((question element.core collection).perform site.toolkit).1

/-- The watched elements are checklists, and all their rows stand in the forest. -/
structure Ticking (oldest : Nat) (refs : List ElementRef) (site : Site Forest) : Prop where
  lists : ∀ ref ∈ refs, ∃ core collection widget, site.Checklist ref core collection widget ∧
    widget.number ≤ oldest
  standing : Standing oldest (site.rowsIn refs) site.toolkit

/-- Which rows of a watched element are checked. -/
def states (refs : List ElementRef) (site : Site Forest) (ref : ElementRef) : List Bool :=
  (site.rowsIn refs ref).map (Row.checkedIn site.toolkit)

section Steps

variable {oldest : Nat} {refs : List ElementRef} {site : Site Forest} {ref : ElementRef}

private theorem Checklist.rowsIn_eq {core : Core} {collection : Collection} {widget : WidgetId}
    (hlist : site.Checklist ref core collection widget) (href : ref ∈ refs) :
    site.rowsIn refs ref = collection.rows := by
  rw [rowsIn, if_pos href, hlist.found]
  rfl

/-- What a checklist answers is the list of its states. -/
theorem Ticking.answer_eq (hticking : site.Ticking oldest refs) (href : ref ∈ refs) :
    site.answer ref Collection.rowStates = some (.ok (site.states refs ref)) ∧
      site.answer ref Collection.anyChecked =
        some (.ok (decide (true ∈ site.states refs ref))) ∧
      site.answer ref Collection.allChecked =
        some (.ok (decide (false ∉ site.states refs ref))) := by
  obtain ⟨core, collection, widget, hlist, -⟩ := hticking.lists ref href
  have hrows := hlist.rowsIn_eq href
  have hstands := hticking.standing.stands ref
  rw [hrows] at hstands
  have hstates := Collection.perform_rowStates hlist.resolver hlist.kind hstands
  have hanswer {α : Type} (question : Core → Collection → Act Forest α) :
      site.answer ref question = some ((question core collection).perform site.toolkit).1 := by
    rw [answer, hlist.found]
    rfl
  rw [← hrows] at hstates
  have hany (list : List Bool) : list.any id = decide (true ∈ list) := by
    induction list with
    | nil => rfl
    | cons head rest ih => cases head <;> simp [ih]
  have hall (list : List Bool) : list.all id = decide (false ∉ list) := by
    induction list with
    | nil => rfl
    | cons head rest ih => cases head <;> simp [ih]
  refine ⟨?_, ?_, ?_⟩
  · rw [hanswer, hstates]
    rfl
  · rw [hanswer, Collection.anyChecked, Act.perform_bind_ok hstates, ← hany]
    rfl
  · rw [hanswer, Collection.allChecked, Act.perform_bind_ok hstates, ← hall]
    rfl

/-- Putting a collection with other rows in the place of an element changes the rows of this
element alone. -/
theorem rowsIn_put {element : Element} (hget : site.elements.get? ref = some element)
    (href : ref ∈ refs) (core : Core) (collection : Collection) (toolkit : Forest) :
    rowsIn refs { site with
        toolkit
        elements := site.elements.put ref ⟨core, .collection collection⟩ } =
      Function.update (site.rowsIn refs) ref collection.rows := by
  funext other
  rw [rowsIn]
  dsimp only
  rw [get?_put hget]
  by_cases hother : other = ref
  · subst hother
    rw [Function.update_self, if_pos href, if_pos rfl]
    rfl
  · rw [Function.update_of_ne hother, if_neg hother, rowsIn]

/-- An order to one checklist is carried out, and does what it should to the states of this one. -/
theorem Ticking.order (hticking : site.Ticking oldest refs) {order : RowOrder}
    (href : order.element ∈ refs) (hplain : order.request.Plain) :
    ∃ after, order.act.perform site = (.ok (), after) ∧ after.Ticking oldest refs ∧
      ∀ ref, after.states refs ref =
        if order.element = ref then order.request.onStates (site.states refs ref)
        else site.states refs ref := by
  obtain ⟨core, collection, widget, hlist, hold⟩ := hticking.lists order.element href
  have hrows := hlist.rowsIn_eq href
  obtain ⟨kept, left, hact, hserved⟩ := order.request.serves_of_plain hticking.standing hrows
    hlist.resolver hlist.kind hlist.built hlist.live hold hplain
  have hput := rowsIn_put hlist.found href core { collection with rows := kept } left
  have hperform := perform_onElement hlist.found
    (Element.onRows order.request.act : Act (Work Element Forest) Unit)
  have hinner : (Element.onRows order.request.act).perform
      ⟨⟨core, .collection collection⟩, site.toolkit⟩ =
      (.ok (), ⟨⟨core, .collection { collection with rows := kept }⟩, left⟩) := by
    rw [Element.perform_onRows, hact]
  rw [hinner] at hperform
  refine ⟨_, hperform, ⟨?_, ?_⟩, ?_⟩
  · intro ref hmem
    by_cases hsame : ref = order.element
    · have hlive := hserved.live widget hlist.live hold
      refine ⟨core, { collection with rows := kept }, widget,
        ⟨?_, hlist.resolver, hlist.kind, hlist.built, hlive⟩, hold⟩
      dsimp only
      rw [get?_put hlist.found, if_pos hsame]
    · obtain ⟨owner, others, parent, hother, hyoung⟩ := hticking.lists ref hmem
      have hlive := hserved.live parent hother.live hyoung
      refine ⟨owner, others, parent,
        ⟨?_, hother.resolver, hother.kind, hother.built, hlive⟩, hyoung⟩
      dsimp only
      rw [get?_put hlist.found, if_neg hsame]
      exact hother.found
  · rw [hput]
    exact hserved.standing
  · intro ref
    rw [states, hput]
    by_cases hsame : order.element = ref
    · subst hsame
      rw [Function.update_self, if_pos rfl, hserved.states, states, hrows]
    · rw [Function.update_of_ne (Ne.symm hsame), if_neg hsame, states]
      exact List.map_congr_left (hserved.others ref (Ne.symm hsame))

/-- However many orders are carried out, the states of each checklist are what its own orders make
of them. -/
theorem Ticking.tend (hticking : site.Ticking oldest refs) {orders : List RowOrder}
    (horders : ∀ order ∈ orders, order.element ∈ refs ∧ order.request.Plain) :
    (site.tend orders).Ticking oldest refs ∧
      ∀ ref, (site.tend orders).states refs ref =
        statesAfter ref orders (site.states refs ref) := by
  induction orders generalizing site with
  | nil => exact ⟨hticking, fun _ => rfl⟩
  | cons order rest ih =>
    obtain ⟨href, hplain⟩ := horders order List.mem_cons_self
    obtain ⟨after, hact, hafter, hstates⟩ := hticking.order href hplain
    obtain ⟨hlast, hlastStates⟩ := ih hafter fun other hother =>
      horders other (List.mem_cons_of_mem _ hother)
    have htend : site.tend (order :: rest) = after.tend rest := by
      rw [tend, List.foldl_cons, hact, tend]
    rw [htend]
    refine ⟨hlast, ?_⟩
    intro ref
    rw [hlastStates, hstates, statesAfter, statesAfter, List.foldl_cons]

/-- Checklists that have no rows yet tick. -/
theorem ticking_of_empty (hsound : site.toolkit.Sound) (hlists : ∀ ref ∈ refs,
    ∃ core collection widget, site.Checklist ref core collection widget ∧ collection.rows = []) :
    site.Ticking site.toolkit.constructed refs ∧ ∀ ref, site.states refs ref = [] := by
  have hempty : ∀ ref, site.rowsIn refs ref = [] := by
    intro ref
    by_cases href : ref ∈ refs
    · obtain ⟨core, collection, widget, hlist, hrows⟩ := hlists ref href
      rw [hlist.rowsIn_eq href, hrows]
    · rw [rowsIn, if_neg href]
  refine ⟨⟨?_, hsound, Nat.le_refl _, ?_, ?_⟩, ?_⟩
  · intro ref href
    obtain ⟨core, collection, widget, hlist, -⟩ := hlists ref href
    exact ⟨core, collection, widget, hlist, (hsound.issued widget hlist.live).2⟩
  · intro ref row hrow
    rw [hempty] at hrow
    cases hrow
  · intro ref other place spot row neighbour hrow
    rw [hempty] at hrow
    cases hrow
  · intro ref
    rw [states, hempty]
    rfl

/-- Checklists simulate lists of truth values. However the requests to several checklists without
rows follow each other, each of them tells at last what its own requests make of the empty list, and
whether some or all of its rows are checked. Any further request succeeds, and one that is about a
row changes no other row of any of them. -/
theorem checklists_simulate (hreachable : site.toolkit.Reachable) (hlists : ∀ ref ∈ refs,
      ∃ core collection widget, site.Checklist ref core collection widget ∧ collection.rows = [])
    {orders : List RowOrder}
    (horders : ∀ order ∈ orders, order.element ∈ refs ∧ order.request.Plain) :
    let tended := site.tend orders
    (∀ ref ∈ refs, let states := statesAfter ref orders []
      tended.answer ref Collection.rowStates = some (.ok states) ∧
      tended.answer ref Collection.anyChecked = some (.ok (decide (true ∈ states))) ∧
      tended.answer ref Collection.allChecked = some (.ok (decide (false ∉ states)))) ∧
    ∀ order : RowOrder, order.element ∈ refs → order.request.Plain →
      ∃ after, order.act.perform tended = (.ok (), after) ∧
        ∀ place, order.request.place? = some place → ∀ ref ∈ refs, ∃ shown,
          after.answer ref Collection.rowStates = some (.ok shown) ∧
          ∀ spot, ref ≠ order.element ∨ spot ≠ place →
            shown[spot]? = (statesAfter ref orders [])[spot]? := by
  obtain ⟨hstart, hnone⟩ := ticking_of_empty hreachable.sound hlists
  obtain ⟨hticking, hstates⟩ := hstart.tend horders
  have hafter (ref : ElementRef) :
      (site.tend orders).states refs ref = statesAfter ref orders [] := by
    rw [hstates, hnone]
  intro tended
  refine ⟨?_, ?_⟩
  · intro ref href
    have hanswers := hticking.answer_eq href
    rw [hafter] at hanswers
    exact hanswers
  · intro order href hplain
    obtain ⟨after, hact, hnext, hserved⟩ := hticking.order href hplain
    refine ⟨after, hact, ?_⟩
    intro place hplace ref hmem
    refine ⟨_, (hnext.answer_eq hmem).1, ?_⟩
    intro spot hother
    rw [hserved, hafter]
    split
    · next hsame =>
      have hspot : spot ≠ place := hother.resolve_left fun hne => hne hsame.symm
      exact RowRequest.getElem?_onStates hplace _ hspot
    · rfl

end Steps

end Site

namespace Plan

/-- A list box of check buttons that was made in a build and has a live widget is a checklist, and
has no rows. -/
theorem checklist_of_build {config : Config} {target : Option WidgetId} {tree : NodeTree}
    {site after : Site Forest} {result : Except BuildError ElementRef}
    (hbuild : ((Plan.standard config).build target tree).perform site = (result, after))
    {ref : ElementRef} (hlater : site.elements.length ≤ ref.index) {widget : WidgetId}
    (hmade : (after.elements.get? ref).map (fun element =>
      (element.role.name, Collection.kind element.core, element.widget)) =
        some ("collection", .listBoxCheckboxes, some widget))
    (hlive : widget ∈ after.toolkit.live) :
    ∃ core collection, after.Checklist ref core collection widget ∧ collection.rows = [] := by
  obtain ⟨⟨core, role⟩, hget, hshown⟩ := Option.map_eq_some_iff.mp hmade
  obtain ⟨hrole, hkind, hwidget⟩ : role.name = "collection" ∧
      Collection.kind core = .listBoxCheckboxes ∧ core.widget = some widget := by
    simpa [Element.widget] using hshown
  cases role with
  | collection collection =>
    obtain ⟨hstandard, hrows⟩ := fresh_of_build hbuild ref _ hlater hget collection rfl
    exact ⟨core, collection, ⟨hget, hstandard, hkind, hwidget, hlive⟩, hrows⟩
  | generic | window | button | checkbox | register => simp [Role.name] at hrole

/-- Two checklists in one panel, to which requests are made by turns. -/
theorem two_checklists_simulated :
    let list (id : String) : NodeTree :=
      .node { id, kind := some "ListBoxCheckboxes", widgetType := some "Frame" } []
    let tree : NodeTree := .node { id := "panel", widgetType := some "Frame" } [list "a", list "b"]
    let outcome := ((Plan.standard {}).build none tree).perform { toolkit := Forest.empty }
    let orders : List RowOrder :=
      [⟨⟨1⟩, .addRow "x"⟩, ⟨⟨2⟩, .addRow "x"⟩, ⟨⟨1⟩, .addRow "x"⟩, ⟨⟨1⟩, .setChecked 0 false⟩,
        ⟨⟨2⟩, .call 0 ⟨"toggle", ⟨[], []⟩⟩⟩]
    let tended := outcome.2.tend orders
    outcome.2.toolkit.Reachable ∧
      tended.answer ⟨1⟩ Collection.rowStates = some (.ok [false, true]) ∧
      tended.answer ⟨2⟩ Collection.rowStates = some (.ok [false]) ∧
      tended.answer ⟨1⟩ Collection.anyChecked = some (.ok true) := by
  intro list tree outcome orders tended
  have hmade : [(⟨1⟩ : ElementRef), ⟨2⟩].map (fun ref =>
      (outcome.2.elements.get? ref).map fun element =>
        (element.role.name, Collection.kind element.core, element.widget)) =
      [some ("collection", .listBoxCheckboxes, some ⟨2⟩),
        some ("collection", .listBoxCheckboxes, some ⟨3⟩)] := by
    subst outcome tree list
    decide +kernel
  have hlive : (⟨2⟩ : WidgetId) ∈ outcome.2.toolkit.live ∧
      (⟨3⟩ : WidgetId) ∈ outcome.2.toolkit.live := by
    subst outcome tree list
    decide +kernel
  have hempty : Forest.empty.Reachable := ⟨[], rfl⟩
  have hbuild : outcome = (outcome.1, outcome.2) := (Prod.eta outcome).symm
  have hreachable := reachable_of_build hempty hbuild
  simp only [List.map_cons, List.map_nil, List.cons.injEq, and_true] at hmade
  have hlists : ∀ ref ∈ [(⟨1⟩ : ElementRef), ⟨2⟩], ∃ core collection widget,
      outcome.2.Checklist ref core collection widget ∧ collection.rows = [] := by
    intro ref href
    simp only [List.mem_cons, List.not_mem_nil, or_false] at href
    rcases href with rfl | rfl
    · have hfirst := checklist_of_build hbuild (Nat.zero_le _) hmade.1 hlive.1
      exact ⟨_, _, _, hfirst.choose_spec.choose_spec⟩
    · have hsecond := checklist_of_build hbuild (Nat.zero_le _) hmade.2 hlive.2
      exact ⟨_, _, _, hsecond.choose_spec.choose_spec⟩
  have horders : ∀ order ∈ orders, order.element ∈ [(⟨1⟩ : ElementRef), ⟨2⟩] ∧
      order.request.Plain := by
    simp [orders, RowRequest.Plain, tickMethods]
  obtain ⟨hanswers, -⟩ := Site.checklists_simulate hreachable hlists horders
  obtain ⟨hfirst, hany, -⟩ := hanswers ⟨1⟩ (by simp)
  obtain ⟨hsecond, -⟩ := hanswers ⟨2⟩ (by simp)
  have hstates : statesAfter ⟨1⟩ orders [] = [false, true] ∧
      statesAfter ⟨2⟩ orders [] = [false] := by
    subst orders
    decide +kernel
  rw [hstates.1] at hfirst hany
  rw [hstates.2] at hsecond
  exact ⟨hreachable, hfirst, hsecond, hany⟩

end Plan

end WidgetTree
