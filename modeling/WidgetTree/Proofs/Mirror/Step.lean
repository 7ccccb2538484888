import WidgetTree.Proofs.Build.Sprout
import WidgetTree.Proofs.Mirror.Forest

namespace WidgetTree

/-- A build begins with what there is. -/
def Ledger.origin (ledger : Ledger) : Origin :=
  ⟨ledger.forest.constructed, ledger.forest.heldValues.length, ledger.holders.length⟩

/-- The deed hands over no handle that a node brings with it. -/
def Deed.HandleFree : Deed → Prop
  | .call made => made.HandleFree
  | attach .. | assign .. | shareVariable => True

namespace Mirror

variable (mirror : Mirror)

/-- Elements that were made as the same ones after the beginning. -/
def Refs (first second : ElementRef) : Prop :=
  mirror.left.elements ≤ first.index ∧
    first.index + mirror.right.elements = second.index + mirror.left.elements

/-- Seats of the same node. -/
structure Seats (first second : Seat) : Prop where
  widget : mirror.Widgets first.widget second.widget
  ref : mirror.Refs first.ref second.ref

/-- Elements of the same node, with widgets that mirror each other if they have any. -/
structure Holders (first second : Holder) : Prop where
  node : first.node = second.node
  widget : Option.Rel mirror.Widgets first.widget second.widget

/-- Ledgers in which all that came since the beginnings mirrors each other. -/
structure Ledgers (first second : Ledger) : Prop where
  forests : mirror.Forests first.forest second.forest
  count : mirror.left.elements ≤ first.holders.length ∧
    first.holders.length + mirror.right.elements =
      second.holders.length + mirror.left.elements
  holders : ∀ {ref twin}, mirror.Refs ref twin →
    Option.Rel mirror.Holders first.holders[ref.index]? second.holders[twin.index]?
  registry : Table.Matches mirror.Refs first.registry second.registry

/-- The same step on things that mirror each other. -/
inductive Steps : BuildStep → BuildStep → Prop
  | construct {seat paired : Seat} {outer twin : WidgetId} {args : Fields Value} (node : String)
      (widgetType : Option String) (hseats : mirror.Seats seat paired)
      (hinside : mirror.Widgets outer twin) (hargs : ∀ entry ∈ args, entry.2.isHandle = false) :
      Steps (.construct seat node widgetType (some outer) args)
        (.construct paired node widgetType (some twin) args)
  | work {widget twin : WidgetId} {deed : Deed} (node : String)
      (hwidgets : mirror.Widgets widget twin) (hfree : deed.HandleFree) :
      Steps (.work node widget deed) (.work node twin deed)
  | bind {seat paired : Seat} (node name : String) (policy : BindingPolicy)
      (hseats : mirror.Seats seat paired) :
      Steps (.bind seat node name policy) (.bind paired node name policy)
  | checkPages (register : String) (children : List NodeSpec) :
      Steps (.checkPages register children) (.checkPages register children)
  | addPage {widget twin : WidgetId} (register : String) (child : NodeSpec)
      (hwidgets : mirror.Widgets widget twin) :
      Steps (.addPage register widget child) (.addPage register twin child)

/-- Both acts have the same result, and leave what is related. -/
structure Parallel {ω : Type} (related : ω → ω → Prop)
    (first second : Except BuildError Unit × ω) : Prop where
  result : first.1 = second.1
  after : related first.2 second.2

variable {mirror}

/-- Seats that are as far behind mirror each other as well. -/
theorem Seats.skip {first second : Seat} (hseats : mirror.Seats first second) (nodes : Nat) :
    mirror.Seats (first.skip nodes) (second.skip nodes) := by
  obtain ⟨⟨hnew, hdistance⟩, ⟨hlater, hapart⟩⟩ := hseats
  refine ⟨⟨?_, ?_⟩, ⟨?_, ?_⟩⟩
  all_goals
    simp only [Seat.skip]
    omega

section Deeds

variable {first second : Forest} (hforests : mirror.Forests first second)
variable {widget twin : WidgetId} (hwidgets : mirror.Widgets widget twin)
include hforests hwidgets

private theorem Forests.makeCall {made counterpart : Call} (hcalls : mirror.Calls made counterpart)
    (node : String) :
    Parallel mirror.Forests ((Deed.makeCall node widget made).perform first)
      ((Deed.makeCall node twin counterpart).perform second) := by
  rw [Deed.perform_makeCall, Deed.perform_makeCall, hcalls.method]
  obtain ⟨error, left, right, hfirst, hsecond, hafter⟩ |
    ⟨one, other, left, right, hfirst, hsecond, hafter⟩ :=
    (hforests.invoke hwidgets hcalls).cases
  · rw [hfirst, hsecond]
    exact ⟨rfl, hafter⟩
  · rw [hfirst, hsecond]
    exact ⟨rfl, hafter⟩

/-- A deed is done alike on both sides. -/
theorem Forests.deed {deed : Deed} (hfree : deed.HandleFree) (node : String) :
    Parallel mirror.Forests ((deed.act node widget).perform first)
      ((deed.act node twin).perform second) := by
  have hoperation (describe : ToolkitError → BuildError)
      {operation paired : Forest → Outcome Forest Unit}
      (houtcomes : mirror.Outcomes (operation first) (paired second)) :
      Parallel mirror.Forests ((Act.ofOperation describe operation).perform first)
        ((Act.ofOperation describe paired).perform second) := by
    rw [Act.perform_ofOperation, Act.perform_ofOperation]
    obtain ⟨error, left, right, hfirst, hsecond, hafter⟩ |
      ⟨one, other, left, right, hfirst, hsecond, hafter⟩ := houtcomes.cases
    · rw [hfirst, hsecond]
      exact ⟨rfl, hafter⟩
    · rw [hfirst, hsecond]
      exact ⟨rfl, hafter⟩
  cases deed with
  | attach strategy args => exact hoperation _ (hforests.attach hwidgets strategy args)
  | assign name value => exact hoperation _ (hforests.setAttribute hwidgets name value)
  | call made => exact hforests.makeCall hwidgets (.self hfree) node
  | shareVariable =>
    have hunchecked : mirror.Values (.int 0) (.int 0) := .plain rfl
    obtain ⟨hvariables, hcreated⟩ := hforests.createVariable hunchecked
    have hshared : mirror.Calls (Element.shareVariable (first.createVariable (.int 0)).1)
        (Element.shareVariable (second.createVariable (.int 0)).1) := by
      refine ⟨rfl, .nil, .cons ⟨rfl, .stateVariable hvariables⟩ (.cons ⟨rfl, .plain rfl⟩ ?_)⟩
      exact .cons ⟨rfl, hunchecked⟩ .nil
    rw [Deed.perform_shareVariable, Deed.perform_shareVariable]
    exact hcreated.makeCall hwidgets hshared node

end Deeds

namespace Ledgers

variable {first second : Ledger} (hledgers : mirror.Ledgers first second)
include hledgers

/-- The next seats mirror each other. -/
theorem seat : mirror.Seats first.seat second.seat := ⟨hledgers.forests.next, hledgers.count⟩

private theorem nodeOf_eq {ref twin : ElementRef} (hrefs : mirror.Refs ref twin) :
    first.nodeOf ref = second.nodeOf twin := by
  rw [Ledger.nodeOf, Ledger.nodeOf]
  obtain ⟨hfirst, hsecond⟩ | ⟨one, other, hfirst, hsecond, hholders⟩ :=
    rel_cases (hledgers.holders hrefs)
  · rw [hfirst, hsecond]
  · rw [hfirst, hsecond, Option.map_some, Option.map_some, hholders.node]

private theorem bound (name : String) :
    Option.Rel mirror.Widgets (first.bound name) (second.bound name) :=
  rel_bind (rel_bind (hledgers.registry.get? name) hledgers.holders) fun hholders => hholders.widget

private theorem page (register : String) (child : NodeSpec) :
    Results mirror.Widgets (first.page register child) (second.page register child) := by
  rw [Ledger.page, Ledger.page]
  cases child.binding with
  | none => exact .error _
  | some name =>
    dsimp only
    obtain ⟨hfirst, hsecond⟩ | ⟨page, twin, hfirst, hsecond, hwidgets⟩ :=
      rel_cases (hledgers.bound name)
    · rw [hfirst, hsecond]
      exact .error _
    · rw [hfirst, hsecond]
      exact .ok hwidgets

private theorem checkPages_eq (register : String) (children : List NodeSpec) :
    first.checkPages register children = second.checkPages register children := by
  induction children with
  | nil => rfl
  | cons child rest ih =>
    rw [Ledger.checkPages, Ledger.checkPages]
    obtain ⟨error, hfirst, hsecond⟩ | ⟨page, twin, hfirst, hsecond, -⟩ :=
      (hledgers.page register child).cases
    · rw [hfirst, hsecond]
    · rw [hfirst, hsecond]
      exact ih

/-- What is done to both forests alike leaves ledgers that mirror each other. -/
theorem inForest {act paired : Act Forest Unit}
    (hacts : Parallel mirror.Forests (act.perform first.forest) (paired.perform second.forest)) :
    Parallel mirror.Ledgers ((Ledger.inForest act).perform first)
      ((Ledger.inForest paired).perform second) :=
  ⟨hacts.result, ⟨hacts.after, hledgers.count, hledgers.holders, hledgers.registry⟩⟩

/-- New elements that mirror each other join at the end of both lists. -/
theorem append {left right : Forest} (hforests : mirror.Forests left right) {newest twin : Holder}
    (hholders : mirror.Holders newest twin) :
    mirror.Ledgers { first with forest := left, holders := first.holders ++ [newest] }
      { second with forest := right, holders := second.holders ++ [twin] } where
  forests := hforests
  registry := hledgers.registry
  count := by
    have hcount := hledgers.count
    simp only [List.length_append, List.length_singleton]
    omega
  holders := by
    intro ref paired hrefs
    obtain ⟨-, hlengths⟩ := hledgers.count
    obtain ⟨-, hdistance⟩ := id hrefs
    rcases Nat.lt_trichotomy ref.index first.holders.length with hlt | heq | hgt
    · rw [List.getElem?_append_left hlt, List.getElem?_append_left (by omega)]
      exact hledgers.holders hrefs
    · have htwin : paired.index = second.holders.length := by omega
      rw [heq, htwin, List.getElem?_concat_length, List.getElem?_concat_length]
      exact .some hholders
    · rw [List.getElem?_eq_none, List.getElem?_eq_none]
      · exact .none
      · rw [List.length_append, List.length_singleton]
        omega
      · rw [List.length_append, List.length_singleton]
        omega

/-- The next widgets are constructed alike, and their elements made, where their parents mirror each
other or stand outside all that does. -/
theorem construct (hfirst : first.forest.Sound) (hsecond : second.forest.Sound)
    {parent outer : Option WidgetId}
    (hparents : mirror.Parents first.forest second.forest parent outer)
    (node : String) (widgetType : Option String) {args : Fields Value}
    (hargs : ∀ entry ∈ args, entry.2.isHandle = false) :
    Parallel mirror.Ledgers
      ((BuildStep.construct first.seat node widgetType parent args).act.perform first)
      ((BuildStep.construct second.seat node widgetType outer args).act.perform second) := by
  have hunhoused : mirror.Holders ⟨node, none⟩ ⟨node, none⟩ := ⟨rfl, .none⟩
  cases widgetType with
  | none => exact ⟨rfl, hledgers.append hledgers.forests hunhoused⟩
  | some name =>
    rw [BuildStep.perform_construct, BuildStep.perform_construct]
    obtain ⟨error, hone, hother⟩ | ⟨hone, hother, hplanted⟩ :=
      hledgers.forests.construct_cases hfirst hsecond hparents name hargs
    · rw [hone, hother]
      exact ⟨rfl, hledgers.append hledgers.forests hunhoused⟩
    · rw [hone, hother]
      exact ⟨rfl, hledgers.append hplanted ⟨rfl, .some hledgers.forests.next⟩⟩

/-- A name is bound alike, or is taken on both sides. -/
theorem bind {ref twin : ElementRef} (hrefs : mirror.Refs ref twin) (node name : String)
    (policy : BindingPolicy) :
    Parallel mirror.Ledgers ((Ledger.bind ref node name policy).perform first)
      ((Ledger.bind twin node name policy).perform second) := by
  have hbound : mirror.Ledgers { first with registry := first.registry.insert name ref }
      { second with registry := second.registry.insert name twin } :=
    ⟨hledgers.forests, hledgers.count, hledgers.holders, hledgers.registry.insert name hrefs⟩
  rw [Ledger.bind, Ledger.bind, Act.perform_mk, Act.perform_mk]
  obtain ⟨hfirst, hsecond⟩ | ⟨taken, other, hfirst, hsecond, hothers⟩ :=
    rel_cases (hledgers.registry.get? name)
  · rw [hfirst, hsecond]
    exact ⟨rfl, hbound⟩
  · rw [hfirst, hsecond]
    cases policy with
    | reject =>
      dsimp only
      rw [hledgers.nodeOf_eq hothers]
      exact ⟨rfl, hledgers⟩
    | overwrite => exact ⟨rfl, hbound⟩

/-- The same step, taken on both sides, has the same result and leaves ledgers that mirror each
other. -/
theorem step {step counterpart : BuildStep} (hsteps : mirror.Steps step counterpart)
    (hfirst : first.forest.Sound) (hsecond : second.forest.Sound)
    (hseated : step.SeatedAt first.seat) (hpaired : counterpart.SeatedAt second.seat) :
    Parallel mirror.Ledgers (step.act.perform first) (counterpart.act.perform second) := by
  cases hsteps with
  | @construct seat paired outer twin args node widgetType hseats hinside hargs =>
    obtain rfl := hseated
    obtain rfl := hpaired
    have hparents := hledgers.forests.parents hinside
    exact hledgers.construct hfirst hsecond hparents node widgetType hargs
  | work node hwidgets hfree =>
    exact hledgers.inForest (hledgers.forests.deed hwidgets hfree node)
  | bind node name policy hseats => exact hledgers.bind hseats.ref node name policy
  | checkPages register children => exact ⟨hledgers.checkPages_eq register children, hledgers⟩
  | addPage register child hwidgets =>
    rw [BuildStep.perform_addPage, BuildStep.perform_addPage]
    obtain ⟨error, hone, hother⟩ | ⟨page, twin, hone, hother, hpages⟩ :=
      (hledgers.page register child).cases
    · rw [hone, hother]
      exact ⟨rfl, hledgers⟩
    · have hadded : mirror.Calls (Element.addTab child.id page) (Element.addTab child.id twin) :=
        ⟨rfl, .cons (.widget hpages) .nil, .cons ⟨rfl, .plain rfl⟩ .nil⟩
      rw [hone, hother]
      exact hledgers.inForest (hledgers.forests.makeCall hwidgets hadded register)

end Ledgers

end Mirror

end WidgetTree
