import WidgetTree.Proofs.Register.Pages

namespace WidgetTree

open Text Forest

/-- A widget is the one that a node asks for, and stands inside another one. -/
def Forest.Seats (config : Config) (parent : WidgetId) (forest : Forest) (tree : NodeTree)
    (widget : WidgetId) : Prop :=
  ∃ record, forest.record? widget = some record ∧ record.parent = some parent ∧
    tree.spec.typeIn config = some record.widgetType ∧
    record.constructorArgs = tree.spec.constructorArgs

namespace Site

/-- The widgets inside the widget of a node are those that were constructed for its children, in
order. -/
structure HasPages (config : Config) (seat : Seat) (children : List NodeTree) (site : Site Forest) :
    Prop where
  inside : site.toolkit.children seat.widget = NodeTree.tops (seat.skip 1) children
  shown : List.Forall₂ (site.toolkit.Seats config seat.widget) children
    (NodeTree.tops (seat.skip 1) children)

namespace HasPages

variable {config : Config} {seat : Seat} {children : List NodeTree} {before after : Site Forest}

/-- The widgets of the children are younger than the widget around them, and live. -/
theorem younger (hpages : before.HasPages config seat children) (hsound : before.toolkit.Sound) :
    ∀ page ∈ NodeTree.tops (seat.skip 1) children,
      seat.widget.number < page.number ∧ page.number ≤ before.toolkit.constructed ∧
        page ∈ before.toolkit.live := by
  intro page hpage
  rw [← hpages.inside] at hpage
  have hlink := hsound.mem_children_iff.mp hpage
  have hlive := mem_live_of_link? hlink
  exact ⟨hsound.older page seat.widget hlink, (hsound.issued page hlive).2, hlive⟩

private theorem of_records (hpages : before.HasPages config seat children)
    (hinside : after.toolkit.children seat.widget = before.toolkit.children seat.widget)
    (hrecords : ∀ page ∈ NodeTree.tops (seat.skip 1) children,
      after.toolkit.record? page = before.toolkit.record? page) :
    after.HasPages config seat children where
  inside := hinside.trans hpages.inside
  shown := by
    obtain ⟨hlength, hshown⟩ := List.forall₂_iff_zip.mp hpages.shown
    refine List.forall₂_iff_zip.mpr ⟨hlength, ?_⟩
    intro child page hmem
    obtain ⟨record, hrecord, hshows⟩ := hshown hmem
    exact ⟨record, (hrecords page (List.of_mem_zip hmem).2).trans hrecord, hshows⟩

/-- Work on the widget around them leaves the widgets of the children. -/
theorem touches (hpages : before.HasPages config seat children) (hsound : before.toolkit.Sound)
    (htouches : Touches seat.widget before.toolkit after.toolkit) :
    after.HasPages config seat children := by
  refine hpages.of_records (htouches.children _) ?_
  intro page hpage
  obtain ⟨hyounger, -⟩ := hpages.younger hsound page hpage
  apply htouches.others
  rintro rfl
  omega

private theorem rests (hpages : before.HasPages config seat children)
    (hsound : before.toolkit.Sound)
    (hown : seat.widget.number ≤ before.toolkit.constructed) (hrests : before.Rests seat after) :
    after.HasPages config seat children := by
  refine hpages.of_records (hrests.children seat.widget (Nat.le_refl _) hown) ?_
  intro page hpage
  obtain ⟨hyounger, hissued, -⟩ := hpages.younger hsound page hpage
  exact hrests.records page hyounger.le hissued

end HasPages

/-- A node was opened and its children were built inside its widget. -/
structure Filled (config : Config) (spec : NodeSpec) (children : List NodeTree)
    (start opened filled : Site Forest) : Prop where
  opens : ∃ target ref, ((Plan.standard config).openNode target spec (freshElement spec)).perform
    start = (.ok ref, opened)
  fills : ((Plan.standard config).buildAll (some start.ledger.seat.widget) children).perform
    opened = (.ok (), filled)

end Site

private theorem Fills.filled {config : Config} {spec : NodeSpec} {children : List NodeTree}
    {target : Option WidgetId} {tree : NodeTree} {site start filled : Site Forest}
    (hfills : Fills config spec children start filled target tree site) :
    ∃ opened, Site.Filled config spec children start opened filled := by
  induction hfills with
  | @own target ref opened hopen hfill =>
    obtain ⟨-, hown, -⟩ := Site.opened_eq_ok hopen
    rw [hown] at hfill
    exact ⟨opened, ⟨target, ref, hopen⟩, hfill⟩
  | inside _ _ _ ih => exact ih

namespace Site.Filled

variable {config : Config} {spec : NodeSpec} {children : List NodeTree}
variable {start opened filled : Site Forest}
variable (hfilled : Filled config spec children start opened filled)
include hfilled

private theorem seat_opened : opened.ledger.seat = start.ledger.seat.skip 1 := by
  obtain ⟨target, ref, hopen⟩ := hfilled.opens
  exact (opened_eq_ok hopen).1

private theorem steps : (takeSteps (NodeTree.stepsAll config opened.ledger.seat
    (some start.ledger.seat.widget) children)).perform opened.ledger = (.ok (), filled.ledger) := by
  have hsteps := (Plan.buildAll_follows config (some start.ledger.seat.widget) children
    opened).perform_eq
  rw [hfilled.fills] at hsteps
  exact hsteps

variable (hsound : start.toolkit.Sound)
include hsound

private theorem grown :
    (start.ledger.seat.widget ∈ opened.toolkit.live ∧
      opened.toolkit.children start.ledger.seat.widget = []) ∧
    Grown config (some start.ledger.seat.widget)
      (NodeTree.placesAll (start.ledger.seat.skip 1) (some start.ledger.seat.widget) children)
      (NodeTree.tops (start.ledger.seat.skip 1) children) opened.toolkit filled.toolkit := by
  obtain ⟨target, ref, hopen⟩ := hfilled.opens
  have hsteps := (openNode_follows config target spec start).perform_eq
  rw [hopen] at hsteps
  obtain ⟨hopened, -⟩ := NodeSpec.grown_of_openingSteps hsound hsteps
  have hown := hopened.mem_live_of_place List.mem_cons_self
  have hlive : ∀ outer ∈ some start.ledger.seat.widget, outer ∈ opened.toolkit.live := by
    rintro outer ⟨⟩
    exact hown
  have hgrown := NodeTree.grown_of_stepsAll children hopened.sound hlive hfilled.steps
  rw [hfilled.seat_opened] at hgrown
  exact ⟨⟨hown, (hopened.shown _ List.mem_cons_self).2⟩, hgrown⟩

private theorem hasPages : filled.HasPages config start.ledger.seat children := by
  obtain ⟨⟨hown, hbare⟩, hgrown⟩ := hfilled.grown hsound
  constructor
  · rw [hgrown.children _ hown, hbare, if_pos rfl, List.nil_append]
  · refine (NodeTree.forall₂_tops (some start.ledger.seat.widget) children _).imp ?_
    rintro child page ⟨place, hplace, hspec, hparent, rfl⟩
    obtain ⟨⟨record, hrecord, hshows⟩, -⟩ := hgrown.shown place hplace
    have htype := hshows.widgetType
    have hargs := hshows.constructorArgs
    rw [hspec] at htype hargs
    exact ⟨record, hrecord, hshows.parent.trans hparent, htype, hargs⟩

private theorem hasRegister (hkind : Kind.of? spec = some .register)
    (htype : config.registerWidgetType = "Notebook") (hfree : spec.HandleFree) :
    filled.HasRegister start.ledger.seat spec spec.sequenceCalls [] := by
  obtain ⟨target, ref, hopen⟩ := hfilled.opens
  obtain ⟨⟨hown, -⟩, hgrown⟩ := hfilled.grown hsound
  obtain ⟨⟨core, hget, hcore⟩, record, hrecord, hshows⟩ :=
    hasRegister_of_openNode hkind htype hfree.sequence hsound hopen
  refine ⟨⟨core, Plan.get?_of_buildAll hget hfilled.fills, hcore⟩, record, ?_, hshows⟩
  rw [hgrown.records _ hown, hrecord]

end Site.Filled

namespace Fills

variable {config : Config} {spec : NodeSpec} {children : List NodeTree}
variable {target : Option WidgetId} {tree : NodeTree} {site start filled after : Site Forest}

private theorem handleFree (hfills : Fills config spec children start filled target tree site)
    (hfree : tree.HandleFree) : spec.HandleFree := by
  induction hfills with
  | own => exact hfree.1
  | @inside target outer before behind tree ref site opened middle hopen hbefore hinner ih =>
    refine ih ?_
    obtain ⟨-, hall⟩ := hfree
    clear ih hinner hbefore
    induction before with
    | nil => exact hall.1
    | cons first rest ih => exact ih hall.2

/-- Whatever a build has come to, a register whose children were built has them inside its notebook.
If all pages are found, the notebook has them as its tabs, added in order after the calls of the
sequence, and behind them the log holds calls of the hook, all of them unless one failed. If a page
is missing, the build fails for that reason, and the notebook has no tab and no further call. -/
theorem register_outcome (htype : config.registerWidgetType = "Notebook") (hfree : tree.HandleFree)
    (hreachable : site.toolkit.Reachable) (hkind : Kind.of? spec = some .register)
    (hfills : Fills config spec children start filled target tree site)
    {result : Except BuildError ElementRef}
    (hbuild : ((Plan.standard config).build target tree).perform site = (result, after)) :
    after.HasPages config start.ledger.seat children ∧
      (∀ error, Element.pages spec.id filled.bound children = .error error →
        result = .error error ∧
          after.HasRegister start.ledger.seat spec spec.sequenceCalls []) ∧
      ∀ found, Element.pages spec.id filled.bound children = .ok found →
        (∀ entry ∈ found, entry.2 ∈ filled.toolkit.live) →
        ∃ made, MadeOf spec.id spec.hook made (result.map fun _ => ()) ∧
          after.HasRegister start.ledger.seat spec
            (spec.sequenceCalls ++ found.map Call.ofEntry ++ made) (found.map Tab.ofEntry) := by
  obtain ⟨opened, hfilled⟩ := hfills.filled
  have hstart := (hfills.reachable hreachable).sound
  have hspec := hfills.handleFree hfree
  have hregister := hfilled.hasRegister hstart hkind htype hspec
  obtain ⟨-, hgrown⟩ := hfilled.grown hstart
  obtain ⟨finish, finished, hfinish, herror, hok, hrests⟩ := hfills.rests hreachable hbuild
  have htouches := hregister.finish_touches hfinish
  have hsound := htouches.sound hgrown.sound
  have hpages := (hfilled.hasPages hstart).touches hgrown.sound htouches
  have hown : start.ledger.seat.widget.number ≤ finished.toolkit.constructed := by
    obtain ⟨-, record, hrecord, -⟩ := hregister
    obtain ⟨-, hissued⟩ := hgrown.sound.issued _ (mem_live_iff.mpr ⟨record, hrecord⟩)
    rw [htouches.constructed]
    exact hissued
  refine ⟨hpages.rests hsound hown hrests, ?_, ?_⟩
  · intro error hmissing
    obtain ⟨rfl, hkept⟩ := hregister.refused hmissing hfinish
    exact ⟨herror error rfl, hkept.rests hsound hrests⟩
  · intro found hfound hlive
    obtain ⟨made, hmade, hadded⟩ := hregister.complete hspec.hook hfound hlive hfinish
    rw [List.nil_append] at hadded
    refine ⟨made, ⟨hmade.prefixed, ?_⟩, hadded.rests hsound hrests⟩
    rcases hmade.stopped with hall | ⟨failed, hfailed, error, rfl⟩
    · exact .inl hall
    · exact .inr ⟨failed, hfailed, error, by rw [herror _ rfl]; rfl⟩

/-- Where names are refused, every register in the tree, at any depth, has its children as its tabs
once they are built, whether or not the build succeeds in the end. The widgets inside its notebook
are those of its children, in order. If a child gives no name, the build fails and names the first
that gives none, and the notebook has no tab and none of the calls of the hook. Otherwise there is
one tab for each child, in order, with the id of the child and the very widget that was constructed
for it; the register lists these ids; and the calls of the hook come behind those that add the tabs,
all of them unless one fails. -/
theorem tabs_of_register_of_reject (hpolicy : config.bindingPolicy = .reject)
    (htype : config.registerWidgetType = "Notebook") (hfree : tree.HandleFree)
    (hreachable : site.toolkit.Reachable) (hkind : Kind.of? spec = some .register)
    (hfills : Fills config spec children start filled target tree site)
    {result : Except BuildError ElementRef}
    (hbuild : ((Plan.standard config).build target tree).perform site = (result, after)) :
    let seat := start.ledger.seat
    let entries := List.zip (children.map (·.spec.id)) (NodeTree.tops (seat.skip 1) children)
    after.HasPages config seat children ∧
      match children.find? (·.spec.binding = none) with
      | some child =>
        result = .error (.configuration child.spec.id ("child of register " ++ backquote spec.id ++
          " has no binding_name; register pages must be bound")) ∧
        after.HasRegister seat spec spec.sequenceCalls []
      | none =>
        ∃ made, MadeOf spec.id spec.hook made (result.map fun _ => ()) ∧
          after.HasRegister seat spec (spec.sequenceCalls ++ entries.map Call.ofEntry ++ made)
            (entries.map Tab.ofEntry) := by
  intro seat entries
  obtain ⟨hpages, hmissing, hfound⟩ :=
    hfills.register_outcome htype hfree hreachable hkind hbuild
  obtain ⟨opened, hfilled⟩ := hfills.filled
  have hstart := (hfills.reachable hreachable).sound
  have hbound := NodeTree.bound_of_stepsAll hpolicy children hfilled.steps
  rw [hfilled.seat_opened, ← Site.bound_eq] at hbound
  have heq := Element.pages_eq spec.id hbound
  refine ⟨hpages, ?_⟩
  cases hfind : children.find? (·.spec.binding = none) with
  | some child =>
    rw [hfind] at heq
    exact hmissing _ heq
  | none =>
    rw [hfind] at heq
    refine hfound _ heq ?_
    intro entry hentry
    have hinside := (hfilled.hasPages hstart).younger (hfilled.grown hstart).2.sound
    exact (hinside entry.2 (List.of_mem_zip hentry).2).2.2

/-- A register on a page of another one has its tab and makes the call of its hook; the one around
it fails, since another page of it gives no name. -/
theorem nested_registers_have_tabs :
    let page : NodeTree :=
      .node { id := "page", widgetType := some "Frame", binding := some "page" } []
    let loose : NodeTree := .node { id := "loose", widgetType := some "Frame" } []
    let inner : NodeSpec :=
      { id := "inner", kind := some "RegisterElement", binding := some "inner",
        hook := [⟨"select", ⟨[.int 0], []⟩⟩] }
    let outer : NodeSpec := { id := "outer", kind := some "RegisterElement" }
    let tree : NodeTree := .node outer [.node inner [page], loose]
    let site : Site Forest := { toolkit := .empty }
    let outcome := ((Plan.standard {}).build none tree).perform site
    tree.HandleFree ∧ site.toolkit.Reachable ∧
      outcome.1 = .error (.configuration "loose"
        "child of register `outer` has no binding_name; register pages must be bound") ∧
      outcome.2.HasRegister ⟨⟨1⟩, ⟨0⟩⟩ outer [] [] ∧
      outcome.2.HasRegister ⟨⟨2⟩, ⟨1⟩⟩ inner
        [Element.addTab "page" ⟨3⟩, ⟨"select", ⟨[.int 0], []⟩⟩] [⟨⟨3⟩, "page"⟩] := by
  intro page loose inner outer tree site outcome
  have hfree : tree.HandleFree := by
    subst tree outer inner loose page
    refine ⟨⟨?_, ?_, ?_⟩, ⟨⟨?_, ?_, ?_⟩, ⟨⟨?_, ?_, ?_⟩, trivial⟩, trivial⟩, ⟨⟨?_, ?_, ?_⟩, trivial⟩,
      trivial⟩
    all_goals simp [Value.isHandle, Call.HandleFree, NodeSpec.sequenceCalls]
  have hreachable : site.toolkit.Reachable := ⟨[], rfl⟩
  let opening := ((Plan.standard {}).openNode none outer (Site.freshElement outer)).perform site
  have hopened : opening.1 = .ok ⟨0⟩ := by
    subst opening site tree outer
    decide +kernel
  have hopen : opening = (.ok ⟨0⟩, opening.2) := by rw [← hopened]
  let filling := ((Plan.standard {}).buildAll (opening.2.widgetOf ⟨0⟩)
    [.node inner [page], loose]).perform opening.2
  have hfilled : filling.1 = .ok () := by
    subst filling opening site tree outer inner loose page
    decide +kernel
  have hfill : filling = (.ok (), filling.2) := by rw [← hfilled]
  have houter : Fills {} outer [.node inner [page], loose] site filling.2 none tree site :=
    .own hopen hfill
  have hbuild : ((Plan.standard {}).build none tree).perform site = (outcome.1, outcome.2) :=
    (Prod.mk.eta).symm
  have hfind : [NodeTree.node inner [page], loose].find? (·.spec.binding = none) = some loose := by
    subst inner page loose
    rfl
  obtain ⟨-, hloose⟩ := houter.tabs_of_register_of_reject rfl rfl hfree hreachable rfl hbuild
  rw [hfind] at hloose
  obtain ⟨hmissing, hbare⟩ := hloose
  have hmessage : "child of register " ++ backquote outer.id ++
      " has no binding_name; register pages must be bound" =
      "child of register `outer` has no binding_name; register pages must be bound" := by
    subst outer
    decide +kernel
  rw [hmessage] at hmissing
  let inside := opening.2.widgetOf ⟨0⟩
  let nested := ((Plan.standard {}).openNode inside inner (Site.freshElement inner)).perform
    opening.2
  have hnested : nested.1 = .ok ⟨1⟩ := by
    subst nested inside opening site tree outer inner loose page
    decide +kernel
  have hnest : nested = (.ok ⟨1⟩, nested.2) := by rw [← hnested]
  let paging := ((Plan.standard {}).buildAll (nested.2.widgetOf ⟨1⟩) [page]).perform nested.2
  have hpaged : paging.1 = .ok () := by
    subst paging nested inside opening site tree outer inner loose page
    decide +kernel
  have hpage : paging = (.ok (), paging.2) := by rw [← hpaged]
  have hbefore : ((Plan.standard {}).buildAll inside []).perform opening.2 = (.ok (), opening.2) :=
    rfl
  have hinner : Fills {} inner [page] opening.2 paging.2 none tree site :=
    show Fills {} inner [page] opening.2 paging.2 none (.node outer ([] ++ .node inner [page] ::
      [loose])) site from .inside hopen hbefore (.own hnest hpage)
  have hseat : opening.2.ledger.seat = ⟨⟨2⟩, ⟨1⟩⟩ := by
    subst opening site tree outer
    rfl
  obtain ⟨-, hpages⟩ := hinner.tabs_of_register_of_reject rfl rfl hfree hreachable rfl hbuild
  rw [hseat] at hpages
  obtain ⟨made, hmade, hshown⟩ := hpages
  have hall : made = inner.hook := by
    rcases hmade.stopped with hall | ⟨failed, -, error, hfailed⟩
    · exact hall
    · rw [hmissing] at hfailed
      cases error <;> cases hfailed
  rw [hall] at hshown
  exact ⟨hfree, hreachable, hmissing, hbare, hshown⟩

/-- Whatever the policy, when a build succeeds a register whose children all give a name has a tab
for each of them, with the id of the child. The tab holds the widget of the last node inside the
register that gives the name of the child: that of the child itself if no node behind it gives the
name again. -/
theorem tabs_of_register (htype : config.registerWidgetType = "Notebook") (hfree : tree.HandleFree)
    (hreachable : site.toolkit.Reachable) (hkind : Kind.of? spec = some .register)
    (hnamed : ∀ child ∈ children, child.spec.binding ≠ none)
    (hfills : Fills config spec children start filled target tree site) {ref : ElementRef}
    (hbuild : ((Plan.standard config).build target tree).perform site = (.ok ref, after)) :
    let seat := start.ledger.seat
    let places := NodeTree.placesAll (seat.skip 1) (some seat.widget) children
    ∃ entries, after.HasPages config seat children ∧
      after.HasRegister seat spec (spec.sequenceCalls ++ entries.map Call.ofEntry ++ spec.hook)
        (entries.map Tab.ofEntry) ∧
      List.Forall₂ (fun child entry => entry.1 = child.spec.id ∧
        ∀ name ∈ child.spec.binding, Place.LastNamed places name entry.2) children entries := by
  intro seat places
  obtain ⟨hpages, -, hfound⟩ := hfills.register_outcome htype hfree hreachable hkind hbuild
  obtain ⟨opened, hfilled⟩ := hfills.filled
  have hstart := (hfills.reachable hreachable).sound
  obtain ⟨-, hgrown⟩ := hfilled.grown hstart
  have hlast : ∀ child ∈ children, ∃ widget, ∀ name ∈ child.spec.binding,
      filled.bound name = some widget ∧ Place.LastNamed places name widget := by
    intro child hchild
    obtain ⟨name, hname⟩ := Option.ne_none_iff_exists'.mp (hnamed child hchild)
    obtain ⟨widget, hbound, hlast⟩ := NodeTree.bound_last ⟨child, hchild, hname⟩ hfilled.steps
    rw [hfilled.seat_opened] at hlast
    rw [← Site.bound_eq] at hbound
    refine ⟨widget, fun given hgiven => ?_⟩
    obtain rfl : name = given := Option.some.inj (hname.symm.trans hgiven)
    exact ⟨hbound, hlast⟩
  have : Nonempty WidgetId := ⟨⟨0⟩⟩
  choose! page hpage using hlast
  have hbound : List.Forall₂ (fun child widget => ∀ name ∈ child.spec.binding,
      filled.bound name = some widget) children (children.map page) := by
    rw [List.forall₂_map_right_iff, List.forall₂_same]
    exact fun child hchild name hname => (hpage child hchild name hname).1
  have heq := Element.pages_eq spec.id hbound
  rw [List.find?_eq_none.mpr fun child hchild => by simpa using hnamed child hchild,
    List.zip_map'] at heq
  have hlive : ∀ entry ∈ children.map fun child => (child.spec.id, page child),
      entry.2 ∈ filled.toolkit.live := by
    intro entry hentry
    obtain ⟨child, hchild, rfl⟩ := List.mem_map.mp hentry
    obtain ⟨name, hname⟩ := Option.ne_none_iff_exists'.mp (hnamed child hchild)
    obtain ⟨-, earlier, place, later, hplaces, -, -, hwidget⟩ := hpage child hchild name hname
    have hplace : place ∈ places := by
      rw [hplaces]
      exact List.mem_append_right _ List.mem_cons_self
    rw [hwidget]
    exact hgrown.mem_live_of_place hplace
  obtain ⟨made, hmade, hregister⟩ := hfound _ heq hlive
  refine ⟨_, hpages, hmade.all ▸ hregister, ?_⟩
  rw [List.forall₂_map_right_iff, List.forall₂_same]
  exact fun child hchild => ⟨rfl, fun name hname => (hpage child hchild name hname).2⟩

/-- Where newer elements get the names, a register two of whose pages give one name succeeds. -/
theorem register_of_one_name_has_tabs :
    let page (id : String) : NodeTree :=
      .node { id, widgetType := some "Frame", binding := some "page" } []
    let book : NodeSpec := { id := "book", kind := some "RegisterElement" }
    let children := [page "first", page "second"]
    let config : Config := { bindingPolicy := .overwrite }
    let site : Site Forest := { toolkit := .empty }
    let outcome := ((Plan.standard config).build none (.node book children)).perform site
    outcome.1 = .ok ⟨0⟩ ∧ (NodeTree.node book children).HandleFree ∧ site.toolkit.Reachable ∧
      ∃ entries, outcome.2.HasPages config ⟨⟨1⟩, ⟨0⟩⟩ children ∧
        outcome.2.HasRegister ⟨⟨1⟩, ⟨0⟩⟩ book ([] ++ entries.map Call.ofEntry ++ [])
          (entries.map Tab.ofEntry) ∧
        List.Forall₂ (fun child entry => entry.1 = child.spec.id ∧
          ∀ name ∈ child.spec.binding, Place.LastNamed
            (NodeTree.placesAll ⟨⟨2⟩, ⟨1⟩⟩ (some ⟨1⟩) children) name entry.2) children entries := by
  intro page book children config site outcome
  have hfree : (NodeTree.node book children).HandleFree := by
    subst book children page
    refine ⟨⟨?_, ?_, ?_⟩, ⟨⟨?_, ?_, ?_⟩, trivial⟩, ⟨⟨?_, ?_, ?_⟩, trivial⟩, trivial⟩
    all_goals simp [Value.isHandle, Call.HandleFree, NodeSpec.sequenceCalls]
  have hreachable : site.toolkit.Reachable := ⟨[], rfl⟩
  have hok : outcome.1 = .ok ⟨0⟩ := by
    subst outcome site config children book page
    decide +kernel
  have hbuild : ((Plan.standard config).build none (.node book children)).perform site =
      (.ok ⟨0⟩, outcome.2) := by
    rw [← hok]
  let opening := ((Plan.standard config).openNode none book (Site.freshElement book)).perform site
  have hopened : opening.1 = .ok ⟨0⟩ := by
    subst opening site config book
    decide +kernel
  have hopen : opening = (.ok ⟨0⟩, opening.2) := by rw [← hopened]
  let filling := ((Plan.standard config).buildAll (opening.2.widgetOf ⟨0⟩) children).perform
    opening.2
  have hfilled : filling.1 = .ok () := by
    subst filling opening site config children book page
    decide +kernel
  have hfill : filling = (.ok (), filling.2) := by rw [← hfilled]
  have hnamed : ∀ child ∈ children, child.spec.binding ≠ none := by
    subst children page
    decide +kernel
  have hfills : Fills config book children site filling.2 none (.node book children) site :=
    .own hopen hfill
  exact ⟨hok, hfree, hreachable, hfills.tabs_of_register rfl hfree hreachable rfl hnamed hbuild⟩

/-- The tabs of such a register both hold the page that was constructed last, and the page of the
first child is not added at all. -/
theorem register_of_one_name_aliases_page :
    let page (id : String) : NodeTree :=
      .node { id, widgetType := some "Frame", binding := some "page" } []
    let tree : NodeTree :=
      .node { id := "book", kind := some "RegisterElement" } [page "first", page "second"]
    let site : Site Forest := { toolkit := .empty }
    let outcome := ((Plan.standard { bindingPolicy := .overwrite }).build none tree).perform site
    outcome.1 = .ok ⟨0⟩ ∧ outcome.2.toolkit.children ⟨1⟩ = [⟨2⟩, ⟨3⟩] ∧
      (outcome.2.toolkit.record? ⟨1⟩).map (fun record => record.tabs.map fun tab =>
        (tab.text, tab.page)) = some [("first", ⟨3⟩), ("second", ⟨3⟩)] := by
  decide +kernel

end Fills

end WidgetTree
