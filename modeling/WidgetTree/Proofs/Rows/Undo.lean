import WidgetTree.Proofs.Build.Growth
import WidgetTree.Proofs.Build.Sprout
import WidgetTree.Proofs.Rows.Fresh
import WidgetTree.Proofs.Rows.Request

namespace WidgetTree

/-- The widgets of the row, so far as it has them, are younger than `top`. -/
structure Row.Inside (top : WidgetId) (row : Row) : Prop where
  container : ∀ widget ∈ row.container.widget, top.number < widget.number
  content : ∀ widget ∈ row.content.widget, top.number < widget.number

structure Collection.Inside (top : WidgetId) (collection : Collection) : Prop where
  resolver : collection.resolver = .standard
  rows : ∀ row ∈ collection.rows, row.Inside top

/-- The widgets of the element and of its rows are `top` or younger. -/
structure Element.Inside (top : WidgetId) (element : Element) : Prop where
  widget : ∀ widget ∈ element.widget, top.number ≤ widget.number
  collection : ∀ collection ∈ element.collection?, collection.Inside top

namespace Forest.Sprouted

variable {base forest : Forest} {target : Option WidgetId} {parent : WidgetId}
variable (hsprouted : Sprouted base target forest)
include hsprouted

private theorem next_inside : base.next.number < forest.next.number := by
  have hgrown := hsprouted.constructed
  rw [number_next, number_next]
  omega

private theorem pack (hparent : parent ∈ forest.live) (hinside : base.next.number ≤ parent.number)
    (widgetType : String) (spec : NodeSpec) :
    Sprouted base target (forest.pack widgetType parent spec) := by
  have hplanted := hsprouted.plant hparent hinside widgetType spec.constructorArgs
  exact hplanted.touches (Nat.le_of_lt hsprouted.next_inside)
    (pack_touches widgetType spec parent)

private theorem makeRow (hparent : parent ∈ forest.live)
    (hinside : base.next.number ≤ parent.number)
    {strategy : RowStrategy} (hmodest : strategy.Modest) (widgetType : String) (spec : RowSpec) :
    Sprouted base target (forest.makeRow strategy widgetType parent spec).2 ∧
      (forest.makeRow strategy widgetType parent spec).1.Inside base.next := by
  have hhoused := hsprouted.pack hparent hinside "Frame" spec.container
  obtain ⟨initial, hmade⟩ :=
    hmodest.perform_content spec (forest.pack "Frame" parent spec.container)
  have htouches := hold_touches (forest.pack "Frame" parent spec.container) initial base.next
  rw [← hmade] at htouches
  have hheld := hhoused.touches (Nat.le_refl _) htouches
  have hholder : forest.next ∈ (forest.pack "Frame" parent spec.container).live :=
    (mem_live_pack_iff "Frame" spec.container hsprouted.sound).mpr (.inr rfl)
  rw [← htouches.live] at hholder
  refine ⟨hheld.pack hholder (Nat.le_of_lt hsprouted.next_inside) _ _, ?_, ?_⟩
  · rintro widget ⟨⟩
    exact hsprouted.next_inside
  · rintro widget ⟨⟩
    exact hhoused.next_inside

private theorem without {widget : Option WidgetId}
    (hyounger : ∀ inner ∈ widget, base.next.number < inner.number) :
    Sprouted base target (forest.without widget) := by
  cases widget with
  | none => exact hsprouted
  | some inner => exact hsprouted.destroy (hyounger inner rfl)

private theorem withoutRows {rows : List Row} (hrows : ∀ row ∈ rows, row.Inside base.next) :
    Sprouted base target (rows.foldl withoutRow forest) := by
  induction rows generalizing forest with
  | nil => exact hsprouted
  | cons row rest ih =>
    have hrow := hrows row List.mem_cons_self
    have hwithout := (hsprouted.without hrow.content).without hrow.container
    exact ih hwithout fun other hother => hrows other (List.mem_cons_of_mem _ hother)

end Forest.Sprouted

section Requests

variable {base forest : Forest} {target : Option WidgetId}

/-- Whatever is asked of a collection inside the subtree, it is done inside the subtree. -/
theorem RowRequest.act_inside (request : RowRequest) {core : Core}
    {collection after : Collection} {left : Forest}
    (hsprouted : Forest.Sprouted base target forest)
    (hcore : ∀ widget ∈ core.widget, base.next.number ≤ widget.number)
    (hinside : collection.Inside base.next)
    (hact : ((request.act core).perform ⟨collection, forest⟩).2 = ⟨after, left⟩) :
    after.Inside base.next ∧ Forest.Sprouted base target left := by
  rcases request.act_cases hsprouted.sound hinside.resolver hact with
    ⟨strategy, widgetType, parent, spec, hmodest, hwidget, hparent, rfl, rfl⟩ | ⟨rfl, rfl⟩ |
    ⟨rfl, row, hrow, widget, hwidget, htouches⟩ | ⟨rfl, htouches⟩
  · obtain ⟨hmade, hrow⟩ :=
      hsprouted.makeRow hparent (hcore parent hwidget) hmodest widgetType spec
    refine ⟨⟨hinside.resolver, ?_⟩, hmade⟩
    intro other hother
    rcases List.mem_append.mp hother with hold | hnew
    · exact hinside.rows other hold
    · obtain rfl := List.mem_singleton.mp hnew
      exact hrow
  · refine ⟨⟨hinside.resolver, ?_⟩, hsprouted.withoutRows hinside.rows⟩
    simp
  · have hyounger := (hinside.rows row hrow).content widget hwidget
    exact ⟨hinside, hsprouted.touches (Nat.le_of_lt hyounger) htouches⟩
  · exact ⟨hinside, hsprouted.touches (Nat.le_refl _) (htouches base.next)⟩

/-- A request to the rows of an element leaves its core, and stays inside the subtree. -/
theorem Element.onRows_inside (request : RowRequest) {element after : Element} {left : Forest}
    (hsprouted : Forest.Sprouted base target forest) (hinside : element.Inside base.next)
    (hact : ((Element.onRows request.act).perform ⟨element, forest⟩).2 = ⟨after, left⟩) :
    after.Inside base.next ∧ Forest.Sprouted base target left ∧ after.core = element.core := by
  rw [Element.onRows, Act.perform_bind_ok (Act.perform_subject _)] at hact
  cases hcollection : element.collection? with
  | none =>
    simp only [hcollection] at hact
    cases hact
    exact ⟨hinside, hsprouted, rfl⟩
  | some collection =>
    simp only [hcollection, Act.perform_onPart] at hact
    obtain ⟨rfl, rfl⟩ := Work.mk.inj hact
    obtain ⟨hrows, hleft⟩ := request.act_inside hsprouted hinside.widget
      (hinside.collection collection hcollection) rfl
    refine ⟨⟨hinside.widget, ?_⟩, hleft, rfl⟩
    rintro other ⟨⟩
    exact hrows

end Requests

namespace Site

private theorem length_onElement {σ α : Type} (site : Site σ) (ref : ElementRef)
    (act : Act (Work Element σ) α) :
    ((onElement ref act).perform site).2.elements.length = site.elements.length := by
  rw [onElement, Act.perform_mk]
  cases site.elements.get? ref with
  | none => rfl
  | some element => exact List.length_set

private theorem length_tend (site : Site Forest) (orders : List RowOrder) :
    (site.tend orders).elements.length = site.elements.length := by
  induction orders generalizing site with
  | nil => rfl
  | cons order rest ih => exact (ih _).trans (length_onElement site order.element _)

/-- The site of a build that succeeded, after whatever was done to the collections of its tree: the
elements from the first one on are inside the new subtree, at the top of which is the first. -/
structure Tended (base : Forest) (target : Option WidgetId) (first : ElementRef)
    (site : Site Forest) : Prop where
  forest : Forest.Sprouted base target site.toolkit
  elements : ∀ ref element, first.index ≤ ref.index → site.elements.get? ref = some element →
    element.Inside base.next
  top : ∃ element, site.elements.get? first = some element ∧ element.widget = some base.next

namespace Tended

variable {base : Forest} {target : Option WidgetId} {first : ElementRef} {site : Site Forest}

private theorem order (htended : Tended base target first site) {order : RowOrder}
    (hlater : first.index ≤ order.element.index) :
    Tended base target first (order.act.perform site).2 := by
  cases hget : site.elements.get? order.element with
  | none =>
    have hkept : (order.act.perform site).2 = site := by
      rw [RowOrder.act, onElement, Act.perform_mk, hget]
    rw [hkept]
    exact htended
  | some element =>
    obtain ⟨hinside, hsprouted, hcore⟩ := Element.onRows_inside order.request htended.forest
      (htended.elements _ element hlater hget) rfl
    rw [RowOrder.act, perform_onElement hget]
    refine ⟨hsprouted, ?_, ?_⟩
    · intro ref other hother
      dsimp only
      rw [get?_put hget]
      split
      · rintro ⟨⟩
        exact hinside
      · exact htended.elements ref other hother
    · obtain ⟨top, hfirst, htop⟩ := htended.top
      dsimp only
      rw [get?_put hget]
      split
      · next heq =>
        rw [heq, hget] at hfirst
        obtain rfl := Option.some.inj hfirst
        refine ⟨_, rfl, ?_⟩
        rw [← htop]
        exact congrArg Core.widget hcore
      · exact ⟨top, hfirst, htop⟩

private theorem tend (htended : Tended base target first site) {orders : List RowOrder}
    (hlater : ∀ order ∈ orders, first.index ≤ order.element.index) :
    Tended base target first (site.tend orders) := by
  induction orders generalizing site with
  | nil => exact htended
  | cons order rest ih =>
    have hnext := htended.order (hlater order List.mem_cons_self)
    exact ih hnext fun other hother => hlater other (List.mem_cons_of_mem _ hother)

end Tended

end Site

section Gone

variable {top : WidgetId} {forest : Forest}

/-- Of rows whose widgets are gone nothing is left to release. -/
theorem Forest.withoutRows_of_gone
    (hgone : ∀ widget, top.number ≤ widget.number → widget ∉ forest.live) {rows : List Row}
    (hrows : ∀ row ∈ rows, row.Inside top) : rows.foldl Forest.withoutRow forest = forest := by
  induction rows with
  | nil => rfl
  | cons row rest ih =>
    have hrow := hrows row List.mem_cons_self
    have hkept (widget : Option WidgetId)
        (hinside : ∀ inner ∈ widget, top.number < inner.number) :
        forest.without widget = forest := by
      cases widget with
      | none => rfl
      | some inner =>
        have hdead := hgone inner (Nat.le_of_lt (hinside inner rfl))
        rw [Forest.without, Forest.destroy_of_not_mem hdead]
    rw [List.foldl_cons, Forest.withoutRow, hkept _ hrow.content, hkept _ hrow.container]
    exact ih fun other hother => hrows other (List.mem_cons_of_mem _ hother)

namespace Element

variable {element : Element}

private theorem Fresh.inside (hfresh : element.Fresh)
    (hwidget : ∀ widget ∈ element.widget, top.number ≤ widget.number) : element.Inside top := by
  refine ⟨hwidget, ?_⟩
  intro collection hcollection
  obtain ⟨hstandard, hrows⟩ := hfresh collection hcollection
  refine ⟨hstandard, ?_⟩
  simp [hrows]

private theorem Inside.rows (hinside : element.Inside top) :
    ∀ row ∈ element.rows, row.Inside top := by
  rw [Element.rows]
  cases hcollection : element.collection? with
  | none => simp
  | some collection => exact (hinside.collection collection hcollection).rows

private theorem Inside.released (hinside : element.Inside top) : element.released.Inside top := by
  obtain ⟨core, role⟩ := element
  refine ⟨nofun, ?_⟩
  cases role with
  | collection collection =>
    rintro other ⟨⟩
    refine ⟨(hinside.collection collection rfl).resolver, ?_⟩
    simp
  | generic | window | button | checkbox | register => nofun

/-- Releasing an element again changes nothing. -/
theorem released_released : element.released.released = element.released := by
  obtain ⟨core, role⟩ := element
  cases role <;> rfl

/-- Releasing an element whose widgets are gone changes nothing in the toolkit. -/
theorem perform_destroy_of_gone
    (hgone : ∀ widget, top.number ≤ widget.number → widget ∉ forest.live)
    (hinside : element.Inside top) :
    destroy.perform ⟨element, forest⟩ = (.ok (), ⟨element.released, forest⟩) := by
  rw [perform_destroy, Forest.withoutRows_of_gone hgone hinside.rows]
  cases hwidget : element.widget with
  | none => rfl
  | some widget =>
    have hdead := hgone widget (hinside.widget widget hwidget)
    rw [Forest.without, Forest.destroy_of_not_mem hdead]

end Element

end Gone

namespace Site

section Release

variable {σ : Type}

/-- Releases elements, one after the other. -/
def destroyAll [Toolkit σ] : List ElementRef → Act (Site σ) Unit
  | [] => pure ()
  | ref :: rest => do
    onElement ref Element.destroy
    destroyAll rest

/-- The element was released and has no widget. -/
def Released (ref : ElementRef) (site : Site σ) : Prop :=
  ∃ element, site.elements.get? ref = some element ∧ element.core.state = .destroyed ∧
    element.widget = none

private theorem Released.of_get? {ref : ElementRef} {site : Site σ} {element : Element}
    (hget : site.elements.get? ref = some element.released) : site.Released ref :=
  ⟨_, hget, rfl, rfl⟩

/-- The element was made between the one time and the other. -/
def MadeSince (before after : Site σ) (ref : ElementRef) : Prop :=
  before.elements.length ≤ ref.index ∧ ref.index < after.elements.length

end Release

variable {top : WidgetId} {site : Site Forest}

/-- Elements whose widgets are gone are released one after the other, in any order and even twice,
and nothing changes but that they are. -/
theorem perform_destroyAll_of_gone
    (hgone : ∀ widget, top.number ≤ widget.number → widget ∉ site.toolkit.live)
    {refs : List ElementRef} (hrefs : ∀ ref ∈ refs,
      ∃ element, site.elements.get? ref = some element ∧ element.Inside top) :
    ∃ left, (destroyAll refs).perform site = (.ok (), left) ∧ left.toolkit = site.toolkit ∧
      ∀ ref, left.elements.get? ref =
        if ref ∈ refs then (site.elements.get? ref).map Element.released
        else site.elements.get? ref := by
  induction refs generalizing site with
  | nil => exact ⟨site, rfl, rfl, fun ref => by simp⟩
  | cons first rest ih =>
    obtain ⟨element, hget, hinside⟩ := hrefs first List.mem_cons_self
    have hfirst := perform_onElement hget (Element.destroy : Act (Work Element Forest) Unit)
    rw [Element.perform_destroy_of_gone hgone hinside] at hfirst
    let next : Site Forest :=
      { site with elements := site.elements.put first element.released }
    have hnext (ref : ElementRef) : next.elements.get? ref =
        if ref = first then some element.released else site.elements.get? ref :=
      get?_put hget element.released ref
    have hrest : ∀ ref ∈ rest, ∃ element, next.elements.get? ref = some element ∧
        element.Inside top := by
      intro ref href
      rw [hnext]
      split
      · exact ⟨_, rfl, hinside.released⟩
      · exact hrefs ref (List.mem_cons_of_mem _ href)
    obtain ⟨left, hleft, htoolkit, helements⟩ := @ih next hgone hrest
    refine ⟨left, ?_, htoolkit, ?_⟩
    · rw [destroyAll, Act.perform_bind_ok hfirst]
      exact hleft
    · intro ref
      rw [helements, hnext]
      by_cases hfirst : ref = first
      · subst hfirst
        simp [hget, Element.released_released]
      · simp [hfirst]

/-- Releasing the element at the top leaves what was there before the build. -/
theorem Tended.destroy {base : Forest} {target : Option WidgetId} {first : ElementRef}
    (htended : Tended base target first site) (hbase : base.Sound) :
    ∃ undone, (onElement first Element.destroy).perform site = (.ok (), undone) ∧
      undone.toolkit.SameWidgets base ∧ undone.elements.length = site.elements.length ∧
      undone.Released first ∧
      ∀ ref element, first.index ≤ ref.index → undone.elements.get? ref = some element →
        element.Inside base.next := by
  obtain ⟨element, hget, htop⟩ := htended.top
  have hinside := htended.elements first element (Nat.le_refl _) hget
  have hcleared := htended.forest.withoutRows hinside.rows
  obtain ⟨felled, hdestroy, hsame, -, -⟩ := hcleared.destroy_top hbase
  have hperform := perform_onElement hget (Element.destroy : Act (Work Element Forest) Unit)
  rw [Element.perform_destroy, htop, Forest.without, hdestroy] at hperform
  have hput := get?_put hget element.released
  refine ⟨_, hperform, hsame, List.length_set, .of_get? ((hput first).trans (if_pos rfl)), ?_⟩
  intro ref other hlater
  dsimp only
  rw [hput]
  split
  · rintro ⟨⟩
    exact hinside.released
  · exact htended.elements ref other hlater

end Site

namespace Plan

variable {config : Config} {target : Option WidgetId} {tree : NodeTree}
variable {site after : Site Forest} {ref : ElementRef}

/-- A build that succeeds leaves a site whose new elements are inside its subtree. -/
theorem tended_of_build (hsound : site.toolkit.Sound)
    (hbuild : ((Plan.standard config).build target tree).perform site = (.ok ref, after)) :
    Site.Tended site.toolkit target site.elements.next after := by
  rcases sprouted_of_build hsound hbuild with hsprouted | ⟨-, error, herror⟩
  · have hfresh := fresh_of_build hbuild
    refine ⟨hsprouted.forest, ?_, ?_⟩
    · intro other element hlater hget
      refine (hfresh other element hlater hget).inside ?_
      intro widget hwidget
      have hholder := after.get?_holders other
      rw [hget] at hholder
      refine hsprouted.holders other.index _ ?_ hholder widget hwidget
      simpa [Site.ledger, Elements.next] using hlater
    · have htop := widgetOf_of_build hbuild
      rw [build_eq_ok hbuild] at htop
      exact Option.bind_eq_some_iff.mp htop
  · cases herror

/-- Destroying what was built undoes the build. After a build that succeeded at a reachable toolkit,
and whatever was done to the rows of its collections since, releasing the element of the top node
succeeds and leaves just the widgets that there were before the build, with their records and
lists. Releasing any elements of the tree after that, in any order, succeeds as well and changes
nothing in the toolkit. All elements so released have no widget any more. -/
theorem destroy_undoes_build (hreachable : site.toolkit.Reachable)
    (hbuild : ((Plan.standard config).build target tree).perform site = (.ok ref, after))
    {orders : List RowOrder} (horders : ∀ order ∈ orders, site.MadeSince after order.element) :
    ∃ undone, (Site.onElement ref Element.destroy).perform (after.tend orders) = (.ok (), undone) ∧
      undone.toolkit.SameWidgets site.toolkit ∧ undone.Released ref ∧
      ∀ others : List ElementRef, (∀ other ∈ others, site.MadeSince after other) →
        ∃ left, (Site.destroyAll others).perform undone = (.ok (), left) ∧
          left.toolkit = undone.toolkit ∧ ∀ other ∈ ref :: others, left.Released other := by
  have hstart := tended_of_build hreachable.sound hbuild
  have htended := hstart.tend fun order horder => (horders order horder).1
  rw [← build_eq_ok hbuild] at htended
  obtain ⟨undone, hperform, hsame, hlength, hreleased, hinside⟩ := htended.destroy hreachable.sound
  refine ⟨undone, hperform, hsame, hreleased, ?_⟩
  intro others hothers
  have hget : ∀ other ∈ others, ∃ element, undone.elements.get? other = some element ∧
      element.Inside site.toolkit.next := by
    intro other hother
    obtain ⟨hlater, hmade⟩ := hothers other hother
    rw [← after.length_tend orders, ← hlength] at hmade
    have hget := List.getElem?_eq_getElem hmade
    refine ⟨_, hget, hinside other _ ?_ hget⟩
    rw [build_eq_ok hbuild]
    exact hlater
  obtain ⟨left, hleft, htoolkit, helements⟩ :=
    Site.perform_destroyAll_of_gone (hsame.gone hreachable.sound) hget
  refine ⟨left, hleft, htoolkit, ?_⟩
  intro other hother
  have hkept := helements other
  by_cases hagain : other ∈ others
  · obtain ⟨element, helement, -⟩ := hget other hagain
    rw [if_pos hagain, helement] at hkept
    exact .of_get? hkept
  · obtain rfl := (List.mem_cons.mp hother).resolve_right hagain
    rw [if_neg hagain] at hkept
    obtain ⟨element, helement, hgone⟩ := hreleased
    exact ⟨element, hkept.trans helement, hgone⟩

/-- A panel with a list of check buttons, to which two rows were added, goes with all of them, and
leaves nothing to the list itself. -/
theorem panel_with_rows_undone :
    let site : Site Forest := { toolkit := Forest.empty.serveAll [.construct "Tk" none []] }
    let choices : NodeSpec :=
      { id := "choices", kind := some "ListBoxCheckboxes", widgetType := some "Frame" }
    let tree : NodeTree := .node { id := "panel", widgetType := some "Frame" } [.node choices []]
    let outcome := ((Plan.standard {}).build (some ⟨1⟩) tree).perform site
    let tended := outcome.2.tend [⟨⟨1⟩, .addRow "first"⟩, ⟨⟨1⟩, .addRow "second"⟩]
    site.toolkit.Reachable ∧ outcome.1 = .ok ⟨0⟩ ∧ tended.toolkit.live.length = 7 ∧
      ∃ undone, (Site.onElement ⟨0⟩ Element.destroy).perform tended = (.ok (), undone) ∧
        undone.toolkit.SameWidgets site.toolkit ∧
        ∃ left, (Site.destroyAll [⟨1⟩]).perform undone = (.ok (), left) ∧
          left.toolkit = undone.toolkit ∧ left.Released ⟨1⟩ := by
  intro site choices tree outcome tended
  have hreachable : site.toolkit.Reachable := ⟨[.construct "Tk" none []], rfl⟩
  have hsome : outcome.1.toOption = some ⟨0⟩ ∧ outcome.2.elements.length = 2 := by
    subst outcome tree choices site
    decide +kernel
  have hok : outcome.1 = .ok ⟨0⟩ := by
    cases hresult : outcome.1 with
    | error error =>
      rw [hresult] at hsome
      cases hsome.1
    | ok ref =>
      rw [hresult] at hsome
      cases hsome.1
      rfl
  have hbuild : outcome = (.ok ⟨0⟩, outcome.2) := by rw [← hok]
  have hcount : tended.toolkit.live.length = 7 := by
    subst tended outcome tree choices site
    decide +kernel
  have hchoices : site.MadeSince outcome.2 ⟨1⟩ := by
    refine ⟨Nat.zero_le _, ?_⟩
    rw [hsome.2]
    exact Nat.one_lt_two
  have horders : ∀ order ∈ ([⟨⟨1⟩, .addRow "first"⟩, ⟨⟨1⟩, .addRow "second"⟩] : List RowOrder),
      site.MadeSince outcome.2 order.element := by
    simpa using hchoices
  obtain ⟨undone, hundone, hsame, -, hothers⟩ :=
    destroy_undoes_build hreachable hbuild horders
  obtain ⟨left, hleft, htoolkit, hreleased⟩ := hothers [⟨1⟩] (by simpa using hchoices)
  exact ⟨hreachable, hok, hcount, undone, hundone, hsame, left, hleft, htoolkit,
    hreleased ⟨1⟩ (by simp)⟩

end Plan

end WidgetTree
