import WidgetTree.Forest.Snapshot
import WidgetTree.Proofs.Forest.Reachable

namespace WidgetTree.Forest

section Loops

variable (forest : Forest)

/-- A climb goes to the parent as long as there is one. Climbs, walks, renderings and releases are
loops that nothing bounds, stated as a derivation for every run that ends; in a sound forest every
one of them ends, with the result that the bounded searches give. -/
inductive Climbs : WidgetId → List WidgetId → Prop
  | top {widget : WidgetId} (hparent : forest.parent? widget = none) : Climbs widget []
  | up {widget parent : WidgetId} {above : List WidgetId}
      (hparent : forest.parent? widget = some parent) (tail : Climbs parent above) :
      Climbs widget (parent :: above)

/-- A walk takes the first widget off its stack and, if it is live, visits it and puts the widgets
inside it onto the stack; it ends when the stack is empty. -/
inductive Walks : List WidgetId → List WidgetId → Prop
  | done : Walks [] []
  | skip {widget : WidgetId} {stack visited : List WidgetId} (hdead : widget ∉ forest.live)
      (tail : Walks stack visited) : Walks (widget :: stack) visited
  | visit {widget : WidgetId} {stack visited : List WidgetId} (hlive : widget ∈ forest.live)
      (tail : Walks (forest.children widget ++ stack) visited) :
      Walks (widget :: stack) (widget :: visited)

/-- The line of a widget at some level. -/
def lineAt (level : Nat) (record : Record) : String :=
  String.ofList (List.replicate (2 * level) ' ') ++ record.describe

/-- Widgets of one level are written in turn: the line of a live widget, then the widgets inside
it one level further in. -/
inductive Renders : Nat → List WidgetId → List String → Prop
  | done (level : Nat) : Renders level [] []
  | skip {level : Nat} {widget : WidgetId} {rest : List WidgetId} {after : List String}
      (hdead : forest.record? widget = none) (tail : Renders level rest after) :
      Renders level (widget :: rest) after
  | write {level : Nat} {widget : WidgetId} {record : Record} {rest : List WidgetId}
      {below after : List String} (hrecord : forest.record? widget = some record)
      (inside : Renders (level + 1) (forest.children widget) below)
      (tail : Renders level rest after) :
      Renders level (widget :: rest) (lineAt level record :: below ++ after)

end Loops

/-- The first widget in line is released, and those listed inside it go to the end of the line; this
ends when none waits. -/
inductive Releases : Forest → List WidgetId → Forest → Prop
  | done (forest : Forest) : Releases forest [] forest
  | next {forest after : Forest} {widget : WidgetId} {waiting inside : List WidgetId}
      (hinside : forest.childLists.get? widget = some inside)
      (tail : Releases (forest.releasedOne widget) (waiting ++ inside) after) :
      Releases forest (widget :: waiting) after
  | bare {forest after : Forest} {widget : WidgetId} {waiting : List WidgetId}
      (hnone : forest.childLists.get? widget = none)
      (tail : Releases (forest.vacate widget) waiting after) :
      Releases forest (widget :: waiting) after

/-- Releasing ends in any forest, sound or not: a list of children goes in every step, or a widget
that waits without one. -/
theorem releases_release (forest : Forest) (waiting : List WidgetId) :
    Releases forest waiting (forest.release waiting) := by
  induction forest, waiting using Forest.release.induct with
  | case1 forest =>
    rw [Forest.release]
    exact .done forest
  | case2 forest widget waiting inside hinside ih =>
    rw [release_cons hinside]
    exact .next hinside ih
  | case3 forest widget waiting hnone ih =>
    rw [release_cons_of_none hnone]
    exact .bare hnone ih

variable {forest : Forest}

private theorem parent?_of_not_mem {widget : WidgetId} (hdead : widget ∉ forest.live) :
    forest.parent? widget = none := by
  rw [parent?, record?_eq_none_iff.mpr hdead]
  rfl

section Climbing

/-- Every parent has a smaller number, so that as many steps as the widget's number suffice. -/
theorem climbs_climb (hsound : forest.Sound) {height : Nat} {widget : WidgetId}
    (hheight : widget.number ≤ height) : forest.Climbs widget (forest.climb height widget) := by
  induction height generalizing widget with
  | zero =>
    refine .top (parent?_of_not_mem ?_)
    intro hlive
    have hissued := hsound.issued widget hlive
    omega
  | succ height ih =>
    rw [climb]
    cases hparent : forest.parent? widget with
    | none => exact .top hparent
    | some parent =>
      have hlt := hsound.older widget parent (parent?_eq_some_iff.mp hparent)
      exact .up hparent (ih (by omega))

/-- From any widget, live or not, climbing ends with the ancestors. -/
theorem climbs_ancestors (hsound : forest.Sound) (widget : WidgetId) :
    forest.Climbs widget (forest.ancestors widget) := by
  by_cases hlive : widget ∈ forest.live
  · exact climbs_climb hsound (hsound.issued widget hlive).2
  · have hparent := parent?_of_not_mem hlive
    have hnone : forest.ancestors widget = [] := by
      rw [ancestors]
      cases forest.constructed with
      | zero => rfl
      | succ height => rw [climb, hparent]
    rw [hnone]
    exact .top hparent

/-- A climb from a live widget stays among live widgets and ends at a root. -/
theorem Climbs.reaches_root {widget : WidgetId} {above : List WidgetId}
    (hclimbs : forest.Climbs widget above) (hsound : forest.Sound) (hlive : widget ∈ forest.live) :
    (∀ outer ∈ above, outer ∈ forest.live) ∧
      ∃ root ∈ forest.roots, (widget :: above).getLast? = some root := by
  induction hclimbs with
  | @top widget hparent =>
    obtain ⟨parent, hlink⟩ := exists_link?_of_mem_live hlive
    cases parent with
    | none => exact ⟨by simp, widget, hsound.mem_roots_iff.mpr hlink, rfl⟩
    | some parent =>
      rw [parent?_eq_some_iff.mpr hlink] at hparent
      cases hparent
  | @up widget parent above hparent tail ih =>
    have houter := hsound.parent_live (parent?_eq_some_iff.mp hparent)
    obtain ⟨habove, root, hroot, hlast⟩ := ih houter
    refine ⟨?_, root, hroot, ?_⟩
    · intro outer hmem
      rcases List.mem_cons.mp hmem with rfl | hmem
      · exact houter
      · exact habove outer hmem
    · rw [List.getLast?_cons_cons]
      exact hlast

end Climbing

section Walking

/-- What can be walked from one widget on, whatever the stack below it, can be walked from several
in turn. -/
theorem walks_flatMap {one : WidgetId → List WidgetId} {list : List WidgetId}
    (hone : ∀ widget ∈ list, ∀ stack visited, forest.Walks stack visited →
      forest.Walks (widget :: stack) (one widget ++ visited))
    {stack visited : List WidgetId} (hwalks : forest.Walks stack visited) :
    forest.Walks (list ++ stack) (list.flatMap one ++ visited) := by
  induction list with
  | nil => exact hwalks
  | cons widget rest ih =>
    have hrest := ih fun other hother => hone other (List.mem_cons_of_mem _ hother)
    rw [List.flatMap_cons, List.append_assoc]
    exact hone widget List.mem_cons_self _ _ hrest

/-- Widgets are younger than those that they are inside. -/
theorem Sound.lt_of_mem_children (hsound : forest.Sound) {widget parent : WidgetId}
    (hmem : widget ∈ forest.children parent) : parent.number < widget.number :=
  hsound.older widget parent (hsound.mem_children_iff.mp hmem)

/-- Every step inside goes to a larger number, so that the widgets constructed since bound the
depth. -/
theorem walks_walkDown (hsound : forest.Sound) {depth : Nat} {widget : WidgetId}
    (hdepth : forest.constructed < depth + widget.number) {stack visited : List WidgetId}
    (hwalks : forest.Walks stack visited) :
    forest.Walks (widget :: stack) (forest.walkDown depth widget ++ visited) := by
  induction depth generalizing widget stack visited with
  | zero =>
    refine .skip ?_ hwalks
    intro hlive
    have hissued := hsound.issued widget hlive
    omega
  | succ depth ih =>
    rw [walkDown]
    split
    · next hlive =>
      refine .visit (contains_iff.mp hlive) (walks_flatMap ?_ hwalks)
      intro inner hinner stack visited hwalks
      have hlt := hsound.lt_of_mem_children hinner
      exact ih (by omega) hwalks
    · next hdead =>
      exact .skip (fun hlive => hdead (contains_iff.mpr hlive)) hwalks

/-- A walk from a widget that is not live visits nothing. -/
theorem walk_of_not_mem {widget : WidgetId} (hdead : widget ∉ forest.live) :
    forest.walk widget = [] := by
  rw [walk]
  cases forest.constructed with
  | zero => rfl
  | succ depth =>
    rw [walkDown, if_neg]
    rwa [contains_iff]

/-- The loop of a walk ends from every widget, with what the bounded walk gives. -/
theorem walks_walk (hsound : forest.Sound) (widget : WidgetId) :
    forest.Walks [widget] (forest.walk widget) := by
  by_cases hlive : widget ∈ forest.live
  · have hpos := (hsound.issued widget hlive).1
    have hdepth : forest.constructed < forest.constructed + widget.number := by omega
    have hwalks := walks_walkDown hsound hdepth (.done : forest.Walks [] [])
    rwa [List.append_nil] at hwalks
  · rw [walk_of_not_mem hlive]
    exact .skip hlive .done

/-- A walk visits what it visits: there is no choice at any step. -/
theorem Walks.unique {stack first second : List WidgetId} (hfirst : forest.Walks stack first)
    (hsecond : forest.Walks stack second) : first = second := by
  induction hfirst generalizing second with
  | done =>
    cases hsecond
    rfl
  | skip hdead tail ih =>
    cases hsecond with
    | skip _ again => exact ih again
    | visit hlive _ => exact absurd hlive hdead
  | visit hlive tail ih =>
    cases hsecond with
    | skip hdead _ => exact absurd hlive hdead
    | visit _ again => rw [ih again]

/-- A walk visits what is live on its stack, and with every widget the widgets inside it. -/
theorem Walks.complete {stack visited : List WidgetId} (hwalks : forest.Walks stack visited) :
    (∀ widget ∈ stack, widget ∈ forest.live → widget ∈ visited) ∧
      ∀ widget ∈ visited, ∀ inner ∈ forest.children widget, inner ∈ forest.live →
        inner ∈ visited := by
  induction hwalks with
  | done => simp
  | skip hdead tail ih =>
    refine ⟨?_, ih.2⟩
    intro widget hmem hlive
    rcases List.mem_cons.mp hmem with rfl | hmem
    · exact absurd hlive hdead
    · exact ih.1 widget hmem hlive
  | visit hlive tail ih =>
    constructor
    · intro widget hmem hwidget
      rcases List.mem_cons.mp hmem with rfl | hmem
      · exact List.mem_cons_self
      · exact List.mem_cons_of_mem _ (ih.1 widget (List.mem_append_right _ hmem) hwidget)
    · intro widget hmem inner hinner hinnerLive
      rcases List.mem_cons.mp hmem with rfl | hmem
      · exact List.mem_cons_of_mem _ (ih.1 inner (List.mem_append_left _ hinner) hinnerLive)
      · exact List.mem_cons_of_mem _ (ih.2 widget hmem inner hinner hinnerLive)

/-- What a walk visits is live, and has what the stack has and going inside keeps. -/
theorem Walks.keeps {property : WidgetId → Prop}
    (hinside : ∀ widget, property widget → ∀ inner ∈ forest.children widget, property inner)
    {stack visited : List WidgetId} (hwalks : forest.Walks stack visited)
    (hstack : ∀ widget ∈ stack, property widget) :
    ∀ widget ∈ visited, widget ∈ forest.live ∧ property widget := by
  induction hwalks with
  | done => simp
  | skip hdead tail ih => exact ih fun other hother => hstack other (List.mem_cons_of_mem _ hother)
  | @visit widget stack visited hlive tail ih =>
    have htop := hstack widget List.mem_cons_self
    intro other hother
    rcases List.mem_cons.mp hother with rfl | hother
    · exact ⟨hlive, htop⟩
    · refine ih ?_ other hother
      intro inner hinner
      rcases List.mem_append.mp hinner with hinner | hinner
      · exact hinside widget htop inner hinner
      · exact hstack inner (List.mem_cons_of_mem _ hinner)

end Walking

section Rendering

/-- What can be written of each of several widgets can be written of all in turn. -/
private theorem renders_flatMap {level : Nat} {one : WidgetId → List String} {list : List WidgetId}
    (hone : ∀ widget ∈ list, ∀ rest after, forest.Renders level rest after →
      forest.Renders level (widget :: rest) (one widget ++ after)) :
    forest.Renders level list (list.flatMap one) := by
  induction list with
  | nil => exact .done level
  | cons widget rest ih =>
    have hrest := ih fun other hother => hone other (List.mem_cons_of_mem _ hother)
    rw [List.flatMap_cons]
    exact hone widget List.mem_cons_self _ _ hrest

private theorem renders_lines (hsound : forest.Sound) {depth level : Nat} {widget : WidgetId}
    (hdepth : forest.constructed < depth + widget.number) {rest : List WidgetId}
    {after : List String} (hrenders : forest.Renders level rest after) :
    forest.Renders level (widget :: rest) (forest.lines depth level widget ++ after) := by
  induction depth generalizing level widget rest after with
  | zero =>
    refine .skip (record?_eq_none_iff.mpr ?_) hrenders
    intro hlive
    have hissued := hsound.issued widget hlive
    omega
  | succ depth ih =>
    rw [lines]
    split
    · next hnone => exact .skip hnone hrenders
    · next record hrecord =>
      refine .write hrecord (renders_flatMap ?_) hrenders
      intro inner hinner rest after hrenders
      have hlt := hsound.lt_of_mem_children hinner
      exact ih (by omega) hrenders

/-- From any widget, live or not, rendering ends with the lines that the text consists of. -/
theorem exists_renders_subtreeText (hsound : forest.Sound) (widget : WidgetId) :
    ∃ lines, forest.Renders 0 [widget] lines ∧
      forest.subtreeText widget = "\n".intercalate lines := by
  by_cases hlive : widget ∈ forest.live
  · have hpos := (hsound.issued widget hlive).1
    have hdepth : forest.constructed < forest.constructed + widget.number := by omega
    have hrenders := renders_lines hsound hdepth (.done 0 : forest.Renders 0 [] [])
    rw [List.append_nil] at hrenders
    exact ⟨_, hrenders, rfl⟩
  · have hnone := record?_eq_none_iff.mpr hlive
    refine ⟨[], .skip hnone (.done 0), ?_⟩
    rw [subtreeText]
    cases forest.constructed with
    | zero => rfl
    | succ depth => rw [lines, hnone]

/-- Rendering writes what it writes: there is no choice at any step. -/
theorem Renders.unique {level : Nat} {widgets : List WidgetId} {first second : List String}
    (hfirst : forest.Renders level widgets first) (hsecond : forest.Renders level widgets second) :
    first = second := by
  induction hfirst generalizing second with
  | done =>
    cases hsecond
    rfl
  | skip hdead tail ih =>
    cases hsecond with
    | skip _ again => exact ih again
    | write hrecord _ _ =>
      rw [hdead] at hrecord
      cases hrecord
  | write hrecord inside tail ihInside ihTail =>
    cases hsecond with
    | skip hdead _ =>
      rw [hrecord] at hdead
      cases hdead
    | write hsame insideAgain tailAgain =>
      rw [hrecord] at hsame
      cases hsame
      rw [ihInside insideAgain, ihTail tailAgain]

end Rendering

end WidgetTree.Forest
