import Mathlib
import WidgetTree.Proofs.Forest.Inside
import WidgetTree.Proofs.Rows.Content
import WidgetTree.Proofs.Rows.Naming

namespace WidgetTree

open Forest

/-- What may happen while a collection is in use: something is asked of it, or of the toolkit by
somebody else. -/
inductive RowEvent
  | asked (request : RowRequest)
  | served (request : Forest.Request)

namespace RowEvent

/-- The collection and the forest after an event, whether or not it succeeds. -/
def after (core : Core) (work : Work Collection Forest) : RowEvent → Work Collection Forest
  | asked request => ((request.act core).perform work).2
  | served request => { work with toolkit := work.toolkit.serve request }

/-- The rows that were asked for and made, after an event: one more, or none after a clearing, or
those from before. -/
def made (core : Core) (work : Work Collection Forest) (specs : List RowSpec) :
    RowEvent → List RowSpec
  | asked .clear => []
  | asked request =>
    match request.spec? core work.subject.rows, ((request.act core).perform work).1 with
    | some spec, .ok () => specs ++ [spec]
    | _, _ => specs
  | served _ => specs

/-- The rows that were asked for and made since the last clearing, after several events. -/
def madeIn (core : Core) : Work Collection Forest → List RowSpec → List RowEvent → List RowSpec
  | _, specs, [] => specs
  | work, specs, event :: rest =>
    madeIn core (event.after core work) (event.made core work specs) rest

/-- What is asked of the toolkit by somebody else makes and destroys nothing inside a widget. -/
def Spares (top : WidgetId) (forest : Forest) : RowEvent → Prop
  | asked _ => True
  | served request => SameInside top forest (forest.serve request)

/-- At the time of each event, what is asked by somebody else constructs and destroys nothing inside
a widget. -/
def AllSpare (core : Core) (top : WidgetId) : Work Collection Forest → List RowEvent → Prop
  | _, [] => True
  | work, event :: rest =>
    event.Spares top work.toolkit ∧ AllSpare core top (event.after core work) rest

/-- Where the collection alone is used, nobody else constructs or destroys anything. -/
theorem allSpare_asked (core : Core) (top : WidgetId) (work : Work Collection Forest)
    (requests : List RowRequest) : AllSpare core top work (requests.map asked) := by
  induction requests generalizing work with
  | nil => trivial
  | cons request rest ih => exact ⟨trivial, ih _⟩

/-- Somebody else attaches the widget anew. -/
def Attaches (widget : WidgetId) : RowEvent → Prop
  | asked _ => False
  | served request => request.Attaches widget

end RowEvent

/-- The resolver's strategies give the content of a row the id that was asked for. -/
def RowResolver.KeepsIds (resolver : RowResolver) : Prop :=
  ∀ kind strategy, resolver.resolve kind = .ok strategy → strategy.KeepsIds

/-- The resolver's strategies are modest. -/
def RowResolver.Modest (resolver : RowResolver) : Prop :=
  ∀ kind strategy, resolver.resolve kind = .ok strategy → strategy.Modest

/-- The row's container is a live frame, packed as containers are unless it was attached anew, and
nothing is inside it but the row's content, which is live. -/
def Row.Framed (anew : WidgetId → Prop) (forest : Forest) (row : Row) : Prop :=
  ∃ container content record, row.container.widget = some container ∧
    row.content.widget = some content ∧ forest.record? container = some record ∧
    record.widgetType = "Frame" ∧
    (¬ anew container → record.attachment = some
      ⟨"pack", [("fill", .string "x"), ("side", .string "top"), ("expand", .bool false)]⟩) ∧
    forest.children container = [content] ∧ content ∈ forest.live

/-- A container stays a frame around its row's content where its list stays and its record keeps
what it must. -/
theorem Row.Framed.kept {anew : WidgetId → Prop} {forest left : Forest} {row : Row}
    (hframed : row.Framed anew forest) (hsound : left.Sound)
    (hcontainer : ∀ container, row.container.widget = some container →
      left.children container = forest.children container ∧
      ∀ record, forest.record? container = some record → ∃ after,
        left.record? container = some after ∧ Record.Keeps (anew container) record after) :
    row.Framed anew left := by
  obtain ⟨container, content, record, hwidget, hcontent, hrecord, hframe, hpacked, halone, -⟩ :=
    hframed
  obtain ⟨hchildren, hkeeps⟩ := hcontainer container hwidget
  obtain ⟨after, hafter, hkept⟩ := hkeeps record hrecord
  rw [← hchildren] at halone
  have hmem : content ∈ left.children container := halone ▸ List.mem_singleton_self content
  refine ⟨container, content, after, hwidget, hcontent, hafter, ?_, ?_, halone,
    hsound.live_of_mem_inside hmem⟩
  · rw [hkept.widgetType, hframe]
  · intro hanew
    rw [hkept.attachment hanew, hpacked hanew]

section Clearing

variable {top widget : WidgetId} {forest : Forest}

/-- A younger widget that goes leaves a gap in the list of an older one, and nothing else. -/
theorem Forest.Sound.without_younger (hsound : forest.Sound) (hlive : top ∈ forest.live)
    (hyounger : top.number < widget.number) :
    (forest.without (some widget)).Sound ∧ top ∈ (forest.without (some widget)).live ∧
      (forest.without (some widget)).children top = (forest.children top).filter (· ≠ widget) := by
  rw [without]
  by_cases hwidget : widget ∈ forest.live
  · obtain ⟨left, hdestroy, hfelled⟩ := hsound.destroy_felled hwidget
    rw [hdestroy]
    refine ⟨hfelled.sound, ?_, hfelled.children top hyounger⟩
    rw [mem_live_iff, hfelled.records top hyounger]
    exact mem_live_iff.mp hlive
  · rw [destroy_of_not_mem hwidget]
    refine ⟨hsound, hlive, (filter_ne_of_not_mem ?_).symm⟩
    exact fun hmem => hwidget (hsound.live_of_mem_inside hmem)

/-- When rows are released that stand at the end of a list, what is before them is left. -/
theorem withoutRows_spec {before : List WidgetId} {rows : List Row} (hsound : forest.Sound)
    (hlive : top ∈ forest.live)
    (hchildren : (forest.children top).map some =
      before.map some ++ rows.map (·.container.widget))
    (hcontents : ∀ row ∈ rows, ∃ content, row.content.widget = some content ∧
      top.number < content.number ∧ content ∉ forest.children top) :
    (rows.foldl withoutRow forest).Sound ∧ top ∈ (rows.foldl withoutRow forest).live ∧
      (rows.foldl withoutRow forest).children top = before := by
  induction rows generalizing forest with
  | nil =>
    rw [List.map_nil, List.append_nil] at hchildren
    exact ⟨hsound, hlive, (Option.some_injective _).list_map hchildren⟩
  | cons row rest ih =>
    obtain ⟨first, later, hlist, hfirst, hlater⟩ := List.map_eq_append_iff.mp hchildren
    obtain rfl := (Option.some_injective _).list_map hfirst
    obtain ⟨container, others, rfl, hcontainer, hothers⟩ := List.map_eq_cons_iff.mp hlater
    obtain ⟨content, hcontent, hyounger, habsent⟩ := hcontents row List.mem_cons_self
    have hnodup := nodup_of_sorted (hsound.children_sorted top)
    rw [hlist] at hnodup
    have hunique := (List.nodup_cons.mp (List.nodup_middle.mp hnodup)).1
    have hmem : container ∈ forest.children top := by simp [hlist]
    obtain ⟨hemptied, hstill, hkept⟩ := hsound.without_younger hlive hyounger
    rw [filter_ne_of_not_mem habsent, hlist] at hkept
    obtain ⟨hremoved, hend, hleft⟩ :=
      hemptied.without_younger hstill (hsound.lt_of_mem_children hmem)
    rw [hkept, List.filter_append, List.filter_cons_of_neg (by simp), ← List.filter_append,
      filter_ne_of_not_mem hunique] at hleft
    have hwithout : forest.withoutRow row =
        (forest.without (some content)).without (some container) := by
      rw [withoutRow, hcontent, show row.container.widget = some container from hcontainer.symm]
    rw [← hwithout] at hremoved hend hleft
    refine ih hremoved hend ?_ ?_
    · rw [hleft, List.map_append, hothers]
    · intro other hother
      obtain ⟨inner, hinner, hinnerYounger, hinnerAbsent⟩ :=
        hcontents other (List.mem_cons_of_mem _ hother)
      refine ⟨inner, hinner, hinnerYounger, ?_⟩
      rw [hleft]
      intro hmem
      apply hinnerAbsent
      rw [hlist]
      rcases List.mem_append.mp hmem with hfirstMem | hotherMem
      · exact List.mem_append_left _ hfirstMem
      · exact List.mem_append_right _ (List.mem_cons_of_mem _ hotherMem)

end Clearing

/-- The rows are those that were asked for, and their containers stand in line behind what was
inside the collection's widget before. -/
structure InLine (top : WidgetId) (before : List WidgetId) (anew : WidgetId → Prop)
    (rows : List Row) (specs : List RowSpec) (forest : Forest) : Prop where
  sound : forest.Sound
  live : top ∈ forest.live
  children : (forest.children top).map some = before.map some ++ rows.map (·.container.widget)
  framed : ∀ row ∈ rows, row.Framed anew forest
  shown : rows.map (fun row => (row.id, row.text)) = specs.map fun spec => (spec.id, spec.text)

namespace InLine

variable {top : WidgetId} {before : List WidgetId} {anew : WidgetId → Prop} {rows : List Row}
variable {specs : List RowSpec} {forest left : Forest}

private theorem container_mem (hline : InLine top before anew rows specs forest) {row : Row}
    (hrow : row ∈ rows) {container : WidgetId}
    (hcontainer : row.container.widget = some container) : container ∈ forest.children top := by
  have hmem : some container ∈ (forest.children top).map some := by
    rw [hline.children]
    exact List.mem_append_right _ (List.mem_map.mpr ⟨row, hrow, hcontainer⟩)
  simpa using hmem

/-- Rows stay in line where the lists inside the collection's widget and the containers stay, and
the containers' records keep what they must. -/
theorem kept (hline : InLine top before anew rows specs forest) (hsound : left.Sound)
    (hlive : top ∈ left.live) (htop : left.children top = forest.children top)
    (hinside : ∀ container ∈ forest.children top,
      left.children container = forest.children container ∧
      ∀ record, forest.record? container = some record → ∃ after,
        left.record? container = some after ∧ Record.Keeps (anew container) record after) :
    InLine top before anew rows specs left where
  sound := hsound
  live := hlive
  children := by rw [htop, hline.children]
  framed row hrow := (hline.framed row hrow).kept hsound fun container hcontainer =>
    hinside container (hline.container_mem hrow hcontainer)
  shown := hline.shown

/-- A row that was refused has left all others in line. -/
theorem refused (hline : InLine top before anew rows specs forest) (hsound : left.Sound)
    (hsame : SameWidgets left forest) : InLine top before anew rows specs left := by
  have hchildren (widget : WidgetId) : left.children widget = forest.children widget := by
    rw [Forest.children, Forest.children, hsame.lists]
  refine hline.kept hsound (hsame.live.mem_iff.mpr hline.live) (hchildren top) ?_
  intro container _
  refine ⟨hchildren container, ?_⟩
  intro record hrecord
  exact ⟨record, (hsame.records container).trans hrecord, .refl _ record⟩

/-- Work on one widget that leaves its type and its attachment leaves the rows in line. -/
theorem touched {widget : WidgetId} (hline : InLine top before anew rows specs forest)
    (htouches : Touches widget forest left)
    (huncalled : (left.record? widget).map Record.uncalled =
      (forest.record? widget).map Record.uncalled) :
    InLine top before anew rows specs left := by
  refine hline.kept (htouches.sound hline.sound) (htouches.live ▸ hline.live)
    (htouches.children top) ?_
  intro container _
  refine ⟨htouches.children container, ?_⟩
  intro record hrecord
  by_cases hwidget : container = widget
  · subst hwidget
    rw [hrecord] at huncalled
    obtain ⟨after, hafter, hkept⟩ := Option.map_eq_some_iff.mp huncalled
    exact ⟨after, hafter, .of_uncalled hkept⟩
  · exact ⟨record, (htouches.others container hwidget).trans hrecord, .refl _ record⟩

/-- What somebody else asks for leaves the rows in line, unless it constructs or destroys. -/
theorem served (hline : InLine top before anew rows specs forest) {request : Forest.Request}
    (hsame : SameInside top forest (forest.serve request))
    (hanew : ∀ widget, request.Attaches widget → anew widget) :
    InLine top before anew rows specs (forest.serve request) := by
  have hsound := hline.sound.serve request
  have htop := hline.sound.top_mem_walk hline.live
  refine hline.kept hsound (hsound.live_of_mem_walk ((hsame top).mpr htop))
    (hsame.children hline.sound htop) ?_
  intro container hmem
  have hvisited := hline.sound.mem_walk_of_mem_children htop hmem
  refine ⟨hsame.children hline.sound hvisited, ?_⟩
  intro record hrecord
  obtain ⟨after, hafter⟩ :=
    mem_live_iff.mp (hsound.live_of_mem_walk ((hsame container).mpr hvisited))
  have hkept := hline.sound.serve_keeps request hrecord hafter
  exact ⟨after, hafter, hkept.widgetType, hkept.parent, fun hnot =>
    hkept.attachment fun hattaches => hnot (hanew container hattaches)⟩

/-- A row that joins stands behind all others. -/
theorem joined (hline : InLine top before anew rows specs forest) {row : Row} {spec : RowSpec}
    {container content : WidgetId} (hcontainer : row.container.widget = some container)
    (hcontent : row.content.widget = some content) (hid : row.id = spec.id)
    (htext : row.text = spec.text) (hgains : Gains top container content forest left) :
    InLine top before anew (rows ++ [row]) (specs ++ [spec]) left where
  sound := hgains.sound
  live := by
    rw [mem_live_iff, hgains.records top hline.live]
    exact mem_live_iff.mp hline.live
  children := by
    rw [hgains.children top hline.live, if_pos rfl, List.map_append, hline.children,
      List.map_append, List.append_assoc, List.map_singleton, List.map_singleton, hcontainer]
  framed other hother := by
    rcases List.mem_append.mp hother with hold | hnew
    · refine (hline.framed other hold).kept hgains.sound ?_
      intro holder hholder
      have hmem := hline.container_mem hold hholder
      have hlive := hline.sound.live_of_mem_inside hmem
      have hapart : top ≠ holder := by
        rintro rfl
        exact absurd (hline.sound.lt_of_mem_children hmem) (Nat.lt_irrefl _)
      refine ⟨?_, ?_⟩
      · rw [hgains.children holder hlive, if_neg hapart, List.append_nil]
      · intro record hrecord
        exact ⟨record, (hgains.records holder hlive).trans hrecord, .refl _ record⟩
    · obtain rfl := List.mem_singleton.mp hnew
      obtain ⟨record, hrecord, hframe, hpacked⟩ := hgains.frame
      exact ⟨container, content, record, hcontainer, hcontent, hrecord, hframe, fun _ => hpacked,
        hgains.inside, hgains.content_mem_live⟩
  shown := by
    rw [List.map_append, List.map_append, hline.shown, List.map_singleton, List.map_singleton, hid,
      htext]

/-- What is inside a container is younger than the widget around it, and not in its list. -/
theorem content_apart (hline : InLine top before anew rows specs forest) {row : Row}
    (hrow : row ∈ rows) : ∃ content, row.content.widget = some content ∧
      top.number < content.number ∧ content ∉ forest.children top := by
  obtain ⟨container, content, -, hcontainer, hcontent, -, -, -, halone, -⟩ := hline.framed row hrow
  have hsound := hline.sound
  have hmem := hline.container_mem hrow hcontainer
  have hinside : content ∈ forest.children container := halone ▸ List.mem_singleton_self content
  have holder := hsound.lt_of_mem_children hmem
  refine ⟨content, hcontent, holder.trans (hsound.lt_of_mem_children hinside), ?_⟩
  intro hlisted
  rw [hsound.mem_children_iff] at hinside hlisted
  rw [hinside, Option.some.injEq, Option.some.injEq] at hlisted
  exact absurd (hlisted ▸ holder) (Nat.lt_irrefl _)

/-- Once the rows are released, what was there before them is left. -/
theorem cleared (hline : InLine top before anew rows specs forest) :
    InLine top before anew [] [] (rows.foldl withoutRow forest) := by
  obtain ⟨hsound, hlive, hchildren⟩ := withoutRows_spec hline.sound hline.live hline.children
    fun row hrow => hline.content_apart hrow
  refine ⟨hsound, hlive, ?_, ?_, rfl⟩
  · rw [hchildren, List.map_nil, List.append_nil]
  · simp

section Asked

variable {core : Core} {collection : Collection} (hwidget : core.widget = some top)
variable (hmodest : collection.resolver.Modest) (hids : collection.resolver.KeepsIds)
include hwidget hmodest hids

/-- A row that is asked for joins the line, or everything stays as it is. -/
theorem added (hline : InLine top before anew collection.rows specs forest)
    {request : RowRequest} {spec : RowSpec}
    (hasks : request.spec? core collection.rows = some spec)
    {result : Except BuildError Unit} {after : Collection}
    (hadd : (request.act core).perform ⟨collection, forest⟩ = (result, ⟨after, left⟩)) :
    after.resolver = collection.resolver ∧
    ((∃ error, result = .error error) ∧ InLine top before anew after.rows specs left ∨
      result = .ok () ∧ InLine top before anew after.rows (specs ++ [spec]) left) := by
  rw [RowRequest.perform_act_of_asks hasks] at hadd
  rcases houtcome : (Collection.addRowWith core spec).perform ⟨collection, forest⟩ with
    ⟨outcome, other, built⟩
  rw [houtcome] at hadd
  cases hadd
  rcases Collection.addRowWith_outcome hline.sound (hmodest _) houtcome with
    ⟨⟨error, rfl⟩, rfl, hsound, hsame⟩ |
    ⟨strategy, parent, container, content, made, hresolve, hparent, hyields, rfl, rfl, hgains⟩
  · exact ⟨rfl, .inl ⟨⟨error, rfl⟩, hline.refused hsound hsame⟩⟩
  · obtain rfl : top = parent := Option.some.inj (hwidget.symm.trans hparent)
    have hid := hids _ strategy hresolve spec made hyields
    exact ⟨rfl, .inr ⟨rfl, hline.joined rfl rfl hid rfl hgains⟩⟩

/-- Whatever is asked of the collection or its rows, the rows are in line afterwards. -/
theorem asked (hline : InLine top before anew collection.rows specs forest)
    (request : RowRequest) {result : Except BuildError Unit} {after : Collection}
    (hact : (request.act core).perform ⟨collection, forest⟩ = (result, ⟨after, left⟩)) :
    after.resolver = collection.resolver ∧ InLine top before anew after.rows
      ((RowEvent.asked request).made core ⟨collection, forest⟩ specs) left := by
  cases request with
  | addRow | addRowWith =>
    obtain ⟨hresolver, hrows⟩ := hline.added hwidget hmodest hids rfl hact
    refine ⟨hresolver, ?_⟩
    simp only [RowEvent.made, RowRequest.spec?, hact]
    rcases hrows with ⟨⟨error, rfl⟩, hrefused⟩ | ⟨rfl, hjoined⟩
    · exact hrefused
    · exact hjoined
  | clear =>
    rw [RowRequest.act, Collection.perform_clear] at hact
    cases hact
    exact ⟨rfl, hline.cleared⟩
  | setChecked place checked =>
    obtain ⟨rfl, rfl | ⟨row, -, rfl⟩⟩ := Collection.perform_onRow_cases (congrArg Prod.snd hact)
    · exact ⟨rfl, hline⟩
    · have hserves := row.setChecked_serves checked forest top
      exact ⟨rfl, hline.touched hserves.touches hserves.uncalled⟩
  | call place made =>
    obtain ⟨rfl, rfl | ⟨row, hrow, hmade⟩⟩ :=
      Collection.perform_onRow_cases (congrArg Prod.snd hact)
    · exact ⟨rfl, hline⟩
    · obtain ⟨content, hcontent, -⟩ := hline.content_apart hrow
      rw [Act.perform_discard, Core.perform_invoke hcontent] at hmade
      cases hmade
      obtain ⟨htouches, huncalled, -⟩ := invoke_spec content made forest
      exact ⟨rfl, hline.touched htouches huncalled⟩

end Asked

/-- No two widgets of rows in line are the same. -/
theorem nodup (hline : InLine top before anew rows specs forest) :
    (rows.map (·.container.widget) ++ rows.map (·.content.widget)).Nodup := by
  have hsound := hline.sound
  have hcontainers : (rows.map (·.container.widget)).Nodup := by
    have hlisted := (nodup_of_sorted (hsound.children_sorted top)).map (Option.some_injective _)
    rw [hline.children] at hlisted
    exact hlisted.of_append_right
  rw [List.nodup_append]
  refine ⟨hcontainers, ?_, ?_⟩
  · rw [List.nodup_iff_pairwise_ne, List.pairwise_map] at hcontainers ⊢
    refine hcontainers.imp_of_mem ?_
    intro row other hrow hother hapart hcontent
    apply hapart
    obtain ⟨container, content, -, hcontainer, hinner, -, -, -, halone, -⟩ := hline.framed row hrow
    obtain ⟨holder, filling, -, hholder, hfilling, -, -, -, hfilled, -⟩ := hline.framed other hother
    have hinside : content ∈ forest.children container := halone ▸ List.mem_singleton_self content
    have hinsideOther : filling ∈ forest.children holder :=
      hfilled ▸ List.mem_singleton_self filling
    obtain rfl : content = filling := by simpa [hinner, hfilling] using hcontent
    rw [hsound.mem_children_iff] at hinside hinsideOther
    rw [hinside, Option.some.injEq, Option.some.injEq] at hinsideOther
    rw [hcontainer, hholder, hinsideOther]
  · rintro first hfirst second hsecond rfl
    obtain ⟨row, hrow, rfl⟩ := List.mem_map.mp hfirst
    obtain ⟨other, hother, hsame⟩ := List.mem_map.mp hsecond
    obtain ⟨content, hcontent, -, habsent⟩ := hline.content_apart hother
    exact habsent (hline.container_mem hrow (hsame.symm.trans hcontent))

variable {core : Core} {work : Work Collection Forest}

/-- An event that spares the collection's widget leaves the rows in line. -/
theorem event (hline : InLine top before anew work.subject.rows specs work.toolkit)
    (hwidget : core.widget = some top) (hmodest : work.subject.resolver.Modest)
    (hids : work.subject.resolver.KeepsIds) {event : RowEvent}
    (hspares : event.Spares top work.toolkit)
    (hanew : ∀ widget, event.Attaches widget → anew widget) :
    (event.after core work).subject.resolver = work.subject.resolver ∧
      InLine top before anew (event.after core work).subject.rows (event.made core work specs)
        (event.after core work).toolkit := by
  cases event with
  | asked request => exact hline.asked hwidget hmodest hids request rfl
  | served request => exact ⟨rfl, hline.served hspares hanew⟩

/-- However many events there are, the rows stay in line. -/
theorem events (hline : InLine top before anew work.subject.rows specs work.toolkit)
    (hwidget : core.widget = some top) (hmodest : work.subject.resolver.Modest)
    (hids : work.subject.resolver.KeepsIds) {events : List RowEvent}
    (hspare : RowEvent.AllSpare core top work events)
    (hanew : ∀ event ∈ events, ∀ widget, event.Attaches widget → anew widget) :
    InLine top before anew (events.foldl (RowEvent.after core) work).subject.rows
      (RowEvent.madeIn core work specs events)
      (events.foldl (RowEvent.after core) work).toolkit := by
  induction events generalizing work specs with
  | nil => exact hline
  | cons event rest ih =>
    obtain ⟨hresolver, hnext⟩ :=
      hline.event hwidget hmodest hids hspare.1 (hanew event List.mem_cons_self)
    exact ih hnext (hresolver ▸ hmodest) (hresolver ▸ hids) hspare.2 fun other hother =>
      hanew other (List.mem_cons_of_mem _ hother)

/-- Where there are no rows, none is out of line. -/
theorem of_empty (hsound : forest.Sound) (hlive : top ∈ forest.live) :
    InLine top (forest.children top) anew [] [] forest where
  sound := hsound
  live := hlive
  children := by rw [List.map_nil, List.append_nil]
  framed _ hrow := absurd hrow List.not_mem_nil
  shown := rfl

end InLine

section Line

variable {core : Core} {top : WidgetId} {collection : Collection} {forest : Forest}
variable (hreachable : forest.Reachable) (hwidget : core.widget = some top)
variable (hlive : top ∈ forest.live) (hempty : collection.rows = [])
variable (hmodest : collection.resolver.Modest) (hids : collection.resolver.KeepsIds)
include hreachable hwidget hlive hempty hmodest hids

/-- The rows of a collection that had none stay in line through all events. -/
theorem Collection.inLine_of_events {events : List RowEvent} {anew : WidgetId → Prop}
    (hspare : RowEvent.AllSpare core top ⟨collection, forest⟩ events)
    (hanew : ∀ event ∈ events, ∀ widget, event.Attaches widget → anew widget) :
    let after := events.foldl (RowEvent.after core) ⟨collection, forest⟩
    InLine top (forest.children top) anew after.subject.rows
      (RowEvent.madeIn core ⟨collection, forest⟩ [] events) after.toolkit := by
  refine InLine.events ?_ hwidget hmodest hids hspare hanew
  rw [hempty]
  exact .of_empty hreachable.sound hlive

/-- However a collection is used, and whatever comes of it, its rows are those that were asked for
and made since the last clearing. Inside its widget is what was there before, and then a container
for each row, which is a frame packed as containers are, unless it was attached anew, and has
nothing in it but the content of that row. -/
theorem Collection.rows_in_line {events : List RowEvent}
    (hspare : RowEvent.AllSpare core top ⟨collection, forest⟩ events) :
    let after := events.foldl (RowEvent.after core) ⟨collection, forest⟩
    let rows := after.subject.rows
    (after.toolkit.children top).map some =
      (forest.children top).map some ++ rows.map (·.container.widget) ∧
    (∀ row ∈ rows,
      row.Framed (fun widget => ∃ event ∈ events, event.Attaches widget) after.toolkit) ∧
    (rows.map (·.container.widget) ++ rows.map (·.content.widget)).Nodup ∧
    rows.map (fun row => (row.id, row.text)) =
      (RowEvent.madeIn core ⟨collection, forest⟩ [] events).map fun spec =>
        (spec.id, spec.text) := by
  intro after rows
  have hanew : ∀ event ∈ events, ∀ widget, event.Attaches widget →
      ∃ event ∈ events, event.Attaches widget :=
    fun event hevent widget hattaches => ⟨event, hevent, hattaches⟩
  have hline :=
    Collection.inLine_of_events hreachable hwidget hlive hempty hmodest hids hspare hanew
  exact ⟨hline.children, hline.framed, hline.nodup, hline.shown⟩

/-- When a collection is used and nothing else is, every container is packed as containers are: no
container is attached anew. -/
theorem Collection.rows_in_line_alone (requests : List RowRequest) :
    let events := requests.map RowEvent.asked
    let after := events.foldl (RowEvent.after core) ⟨collection, forest⟩
    let rows := after.subject.rows
    (after.toolkit.children top).map some =
      (forest.children top).map some ++ rows.map (·.container.widget) ∧
    (∀ row ∈ rows, row.Framed (fun _ => False) after.toolkit) ∧
    (rows.map (·.container.widget) ++ rows.map (·.content.widget)).Nodup ∧
    rows.map (fun row => (row.id, row.text)) =
      (RowEvent.madeIn core ⟨collection, forest⟩ [] events).map fun spec =>
        (spec.id, spec.text) := by
  intro events after rows
  have hanew : ∀ event ∈ events, ∀ widget, event.Attaches widget → False := by
    intro event hevent widget hattaches
    obtain ⟨request, -, rfl⟩ := List.mem_map.mp hevent
    exact hattaches
  have hline := Collection.inLine_of_events hreachable hwidget hlive hempty hmodest hids
    (RowEvent.allSpare_asked core top _ requests) hanew
  exact ⟨hline.children, hline.framed, hline.nodup, hline.shown⟩

end Line

/-- A list whose rows say which widget shows them is used: one of them can be constructed but not
packed, and goes again, a clearing takes those from before, and somebody else adds a button next to
the list. -/
theorem list_of_typed_rows_in_line :
    let forest : Forest := Forest.empty.serveAll
      [.construct "Tk" none [], .construct "Frame" (some ⟨1⟩) [],
        .construct "Label" (some ⟨2⟩) []]
    let core : Core :=
      { spec := { id := "list", kind := some "ListBox", widgetType := some "Frame" }
        widget := some ⟨2⟩, target := some ⟨1⟩, state := .built }
    let typed : RowStrategy :=
      { name := "typed", content := fun spec => .done { node := spec.content spec.text } }
    let collection : Collection := { resolver := [(.listBox, typed)] }
    let events : List RowEvent :=
      [.asked (.addRow "Entry"), .asked .clear, .asked (.addRow "Label"),
        .asked (.addRow "Toplevel"), .served (.construct "Button" (some ⟨1⟩) []),
        .asked (.addRowWith { id := "last", text := "Button" })]
    forest.Reachable ∧ ⟨2⟩ ∈ forest.live ∧ collection.resolver.Modest ∧
      collection.resolver.KeepsIds ∧ RowEvent.AllSpare core ⟨2⟩ ⟨collection, forest⟩ events ∧
      ((events.foldl (RowEvent.after core) ⟨collection, forest⟩).toolkit.children ⟨2⟩).map some =
        [some ⟨3⟩, some ⟨6⟩, some ⟨11⟩] ∧
      (events.foldl (RowEvent.after core) ⟨collection, forest⟩).subject.rows.map
          (fun row => (row.id, row.text)) =
        [("generic:list.Label", "Label"), ("last", "Button")] := by
  intro forest core typed collection events
  have hreachable : forest.Reachable := ⟨_, rfl⟩
  have hlive : ⟨2⟩ ∈ forest.live := by
    subst forest
    decide +kernel
  have hmodest : collection.resolver.Modest := by
    intro kind strategy hresolve
    cases kind <;> cases hresolve
    exact ⟨fun _ => rfl, fun _ => .inl ⟨_, rfl⟩⟩
  have hids : collection.resolver.KeepsIds := by
    intro kind strategy hresolve
    cases kind <;> cases hresolve
    rintro spec _ ⟨σ, _, toolkit, rfl⟩
    rfl
  have hspare : RowEvent.AllSpare core ⟨2⟩ ⟨collection, forest⟩ events := by
    refine ⟨trivial, trivial, trivial, trivial, .of_walk ?_, trivial, trivial⟩
    subst events collection typed core forest
    cbv
  obtain ⟨hchildren, -, -, hshown⟩ :=
    Collection.rows_in_line hreachable rfl hlive rfl hmodest hids hspare
  refine ⟨hreachable, hlive, hmodest, hids, hspare, ?_, ?_⟩
  · have hbefore : forest.children ⟨2⟩ = [⟨3⟩] := by
      subst forest
      decide +kernel
    have hcontainers : (events.foldl (RowEvent.after core) ⟨collection, forest⟩).subject.rows.map
        (·.container.widget) = [some ⟨6⟩, some ⟨11⟩] := by
      subst events collection typed core forest
      cbv
    rw [hcontainers, hbefore] at hchildren
    exact hchildren
  · have hmade : (RowEvent.madeIn core ⟨collection, forest⟩ [] events).map
          (fun spec => (spec.id, spec.text)) =
        [("generic:list.Label", "Label"), ("last", "Button")] := by
      subst events collection typed core forest
      cbv
    exact hshown.trans hmade

end WidgetTree
