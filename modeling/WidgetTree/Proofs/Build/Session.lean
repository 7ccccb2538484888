import WidgetTree.Proofs.Build.Binding
import WidgetTree.Proofs.Build.Trace

namespace WidgetTree

open Text

/-- The binding of the node, if it is to be bound. -/
def Place.bond? (place : Place) : Option Bond :=
  place.spec.binding.map fun name => ⟨place.seat, place.spec.id, name⟩

namespace NodeSpec

variable (config : Config) (seat : Seat) (target : Option WidgetId) (spec : NodeSpec)

/-- Opening a node binds its element, if the node gives a name. -/
theorem bondsOf_openingSteps :
    bondsOf (spec.openingSteps config seat target) =
      (spec.binding.map fun name => (⟨seat, spec.id, name⟩ : Bond)).toList := by
  have hwork : bondsOf ((spec.deeds config).map (.work spec.id seat.widget)) = [] := by
    refine bondsOf_eq_nil ?_
    intro step hstep
    obtain ⟨deed, -, rfl⟩ := List.mem_map.mp hstep
    rfl
  rw [openingSteps, List.cons_append, bondsOf, List.filterMap_cons_none rfl]
  change bondsOf _ = _
  rw [bondsOf_append, hwork, List.nil_append]
  cases spec.binding <;> rfl

private theorem unbound_closingSteps (children : List NodeSpec) :
    ∀ step ∈ spec.closingSteps seat children, step.bond? = none := by
  intro step hstep
  rcases closingSteps_cases seat spec hstep with ⟨made, rfl⟩ | rfl | ⟨child, rfl⟩ <;> rfl

/-- The one binding among a node's own steps is of its own element. -/
theorem grounded_openingSteps :
    Grounded config.bindingPolicy (spec.openingSteps config seat target) := by
  intro before own node name policy rest hsplit
  rw [openingSteps_eq] at hsplit
  cases before with
  | nil => cases hsplit
  | cons first before =>
    obtain ⟨rfl, hsettling⟩ := List.cons.inj hsplit
    have hbind : .bind own node name policy ∈ spec.settlingSteps config seat := by
      rw [hsettling]
      simp
    rcases settlingSteps_cases config seat spec hbind with ⟨deed, hdeed⟩ | ⟨given, hgiven⟩
    · cases hdeed
    · cases hgiven
      exact ⟨rfl, _, _, _, List.mem_cons_self⟩

end NodeSpec

namespace NodeTree

variable (config : Config)

mutual

/-- The bindings of a tree are those of its nodes, in pre-order. -/
theorem bondsOf_steps (seat : Seat) (target : Option WidgetId) : ∀ tree : NodeTree,
    bondsOf (tree.steps config seat target) = (tree.places seat target).filterMap Place.bond?
  | node spec children => by
    have hclosing := bondsOf_eq_nil (spec.unbound_closingSteps seat (children.map NodeTree.spec))
    rw [steps, places, bondsOf_append, bondsOf_append, hclosing, List.append_nil,
      bondsOf_stepsAll, NodeSpec.bondsOf_openingSteps]
    cases hbinding : spec.binding <;> simp [Place.bond?, hbinding]

/-- The bindings of several trees are those of their nodes that give a name, in order. -/
theorem bondsOf_stepsAll (seat : Seat) (target : Option WidgetId) : ∀ trees : List NodeTree,
    bondsOf (stepsAll config seat target trees) =
      (placesAll seat target trees).filterMap Place.bond?
  | [] => rfl
  | tree :: rest => by
    rw [stepsAll, placesAll, bondsOf_append, List.filterMap_append, bondsOf_steps,
      bondsOf_stepsAll]

end

mutual

/-- The steps of a tree are grounded. -/
theorem grounded_steps (seat : Seat) (target : Option WidgetId) : ∀ tree : NodeTree,
    Grounded config.bindingPolicy (tree.steps config seat target)
  | node spec children => by
    rw [steps]
    have hopening := spec.grounded_openingSteps config seat target
    have hinner := grounded_stepsAll (seat.skip 1) (some seat.widget) children
    exact (hopening.append hinner).append (.of_unbound (spec.unbound_closingSteps seat _))

/-- The steps of several trees are grounded. -/
theorem grounded_stepsAll (seat : Seat) (target : Option WidgetId) : ∀ trees : List NodeTree,
    Grounded config.bindingPolicy (stepsAll config seat target trees)
  | [] => .of_unbound nofun
  | tree :: rest => by
    rw [stepsAll]
    exact (grounded_steps seat target tree).append
      (grounded_stepsAll (seat.skip tree.count) target rest)

end

end NodeTree

/-- The registry of a site is made by these bindings, in the order in which they were accepted, and
each of them is of the element that has the widget constructed for its node. A build that fails
leaves the bindings that it had made. -/
structure Site.Registered (policy : BindingPolicy) (bonds : List Bond) (site : Site Forest) :
    Prop where
  /-- Names stand where they first appeared. -/
  names : site.registry.keys = (bonds.map Bond.name).eraseDups
  /-- A name leads to the last element that was bound under it. -/
  latest : ∀ earlier bond later, bonds = earlier ++ bond :: later →
    bond.name ∉ later.map Bond.name → site.registry.get? bond.name = some bond.seat.ref
  /-- Where names are refused, the registry is the list of the bindings. -/
  listed : policy = .reject →
    site.registry = bonds.map Bond.entry ∧ (bonds.map Bond.name).Nodup
  housed : ∀ bond ∈ bonds, ∃ element, site.elements.get? bond.seat.ref = some element ∧
    element.id = bond.node ∧ element.widget = some bond.seat.widget
  constructed : ∀ bond ∈ bonds,
    ∃ widgetType, .constructed bond.seat.widget widgetType ∈ site.toolkit.history

private theorem Ledger.Holds.registered {policy : BindingPolicy} {bonds : List Bond}
    {site : Site Forest}
    (hholds : site.ledger.Holds policy bonds) : site.Registered policy bonds where
  names := by
    have hkeys := congrArg Table.keys hholds.registry
    rw [Table.keys_ofPairs, keys_entries] at hkeys
    exact hkeys
  latest earlier bond later hsplit hlast := by
    subst hsplit
    exact hholds.get?_last hlast
  listed hreject := by
    subst hreject
    exact ⟨hholds.registry_eq, hholds.distinct rfl⟩
  housed bond hbond := by
    have hheld := hholds.housed bond hbond
    rw [Site.get?_holders] at hheld
    obtain ⟨element, hget, hholder⟩ := Option.map_eq_some_iff.mp hheld
    obtain ⟨hid, hwidget⟩ := Holder.mk.inj hholder
    exact ⟨element, hget, hid, hwidget⟩
  constructed := hholds.constructed

namespace Plan

/-- What a builder is asked for: to build a tree inside a target, or a whole description at the
top. -/
inductive Job
  | build (target : Option WidgetId) (tree : NodeTree)
  | process (tree : NodeTree)

namespace Job

def tree : Job → NodeTree
  | build _ tree | process tree => tree

def target : Job → Option WidgetId
  | build target _ => target
  | process _ => none

/-- Does the job. -/
def act (plan : Plan) : Job → Act (Site Forest) Unit
  | build target tree => do
    let _ ← plan.build target tree
  | process tree => do
    let _ ← plan.process tree

/-- The steps in which the job is done at a site. -/
def steps (config : Config) (site : Site Forest) (job : Job) : List BuildStep :=
  job.tree.steps config site.ledger.seat job.target

/-- The bindings that the job gets accepted at a site: those of the nodes that it reaches, of which
all steps up to the binding succeed. -/
def accepted (config : Config) (site : Site Forest) (job : Job) : List Bond :=
  bondsOf (stepsTaken (job.steps config site) site.ledger)

/-- The bindings that the nodes of the job ask for, in pre-order. -/
def asked (site : Site Forest) (job : Job) : List Bond :=
  (job.tree.places site.ledger.seat job.target).filterMap Place.bond?

private theorem act_follows (config : Config) (job : Job) (site : Site Forest) :
    Follows Site.ledger (job.act (Plan.standard config)) (takeSteps (job.steps config site))
      site := by
  cases job with
  | build target tree =>
    exact (build_follows config target tree site).bind_silent fun _ _ _ => .pure _
  | process tree =>
    rw [act, Plan.process]
    simp only [bind_assoc]
    refine (build_follows config none tree site).bind_silent ?_
    intro _ built _
    exact .silent_bind (Act.perform_get built) rfl (.pure _)

end Job

/-- The site after several jobs, done in order, whether or not they succeed. -/
def runAll (config : Config) (site : Site Forest) (jobs : List Job) : Site Forest :=
  jobs.foldl (fun site job => ((job.act (Plan.standard config)).perform site).2) site

/-- The bindings that several jobs get accepted, in order. -/
def acceptedAll (config : Config) : Site Forest → List Job → List Bond
  | _, [] => []
  | site, job :: rest =>
    job.accepted config site ++
      acceptedAll config ((job.act (Plan.standard config)).perform site).2 rest

namespace Job

/-- What a job does to the bindings of a builder that has accepted others before. -/
structure Binds (config : Config) (bonds : List Bond) (site : Site Forest) (job : Job) : Prop where
  /-- The bindings are accepted in pre-order, up to the first that the job does not get to. -/
  in_order : job.accepted config site <+: job.asked site
  /-- A job that succeeds gets all that its nodes ask for. -/
  complete : ((job.act (Plan.standard config)).perform site).1 = .ok () →
    job.accepted config site = job.asked site
  /-- Where names are refused, no entry of the registry is replaced, moved or removed. -/
  kept : config.bindingPolicy = .reject →
    site.registry <+: ((job.act (Plan.standard config)).perform site).2.registry
  /-- Where names are refused, the first node whose name is taken makes the job fail. -/
  refused : ∀ before seat node name policy rest middle,
    job.steps config site = before ++ .bind seat node name policy :: rest →
    (takeSteps before).perform site.ledger = (.ok (), middle) →
    config.bindingPolicy = .reject → ∀ holder ∈ bonds ++ bondsOf before, holder.name = name →
      ((job.act (Plan.standard config)).perform site).1 =
        .error (.configuration node ("binding " ++ backquote name ++
          " is already taken by node " ++ backquote holder.node))
  /-- A node that the job gets to is bound, unless its name is refused. -/
  granted : ∀ before seat node name policy rest middle,
    job.steps config site = before ++ .bind seat node name policy :: rest →
    (takeSteps before).perform site.ledger = (.ok (), middle) →
    (config.bindingPolicy = .reject → name ∉ (bonds ++ bondsOf before).map Bond.name) →
      ⟨seat, node, name⟩ ∈ job.accepted config site

section Session

variable {config : Config} {bonds : List Bond} {site : Site Forest}

private theorem perform_steps (config : Config) (job : Job) (site : Site Forest) :
    (takeSteps (job.steps config site)).perform site.ledger =
      (((job.act (Plan.standard config)).perform site).1,
        ((job.act (Plan.standard config)).perform site).2.ledger) := by
  rw [(job.act_follows config site).perform_eq]
  cases ((job.act (Plan.standard config)).perform site).1 <;> rfl

/-- The bindings that a job gets accepted join those that were accepted before. -/
theorem holds_act (hholds : site.ledger.Holds config.bindingPolicy bonds) (job : Job) :
    ((job.act (Plan.standard config)).perform site).2.ledger.Holds config.bindingPolicy
      (bonds ++ job.accepted config site) :=
  hholds.stepsTaken (job.tree.seated_steps config site.ledger.seat job.target).1
    (job.tree.grounded_steps config site.ledger.seat job.target) (job.perform_steps config site)

private theorem accepted_prefix_asked (job : Job) :
    job.accepted config site <+: job.asked site := by
  rw [asked, ← NodeTree.bondsOf_steps config]
  rcases takeSteps_cases (job.perform_steps config site) with
    ⟨htaken, -⟩ | ⟨failed, rest, -, -, hsteps, -⟩
  · rw [accepted, htaken]
    exact List.prefix_refl _
  · change _ <+: bondsOf (job.steps config site)
    rw [hsteps, bondsOf_append]
    exact List.prefix_append _ _

private theorem holds_before (hholds : site.ledger.Holds config.bindingPolicy bonds) {job : Job}
    {before rest : List BuildStep} {middle : Ledger}
    (hsteps : job.steps config site = before ++ rest)
    (hbefore : (takeSteps before).perform site.ledger = (.ok (), middle)) :
    middle.Holds config.bindingPolicy (bonds ++ bondsOf before) := by
  have hseated := (job.tree.seated_steps config site.ledger.seat job.target).1
  have hgrounded := job.tree.grounded_steps config site.ledger.seat job.target
  change Seated _ (job.steps config site) at hseated
  change Grounded _ (job.steps config site) at hgrounded
  rw [hsteps] at hseated hgrounded
  exact hholds.takeSteps (seated_append.mp hseated).1 hgrounded.of_append hbefore

/-- What every job does, given the bindings that the registry is made by. -/
theorem binds (hholds : site.ledger.Holds config.bindingPolicy bonds) (job : Job) :
    job.Binds config bonds site where
  in_order := job.accepted_prefix_asked
  complete hok := by
    have hrun := job.perform_steps config site
    rw [hok] at hrun
    rw [accepted, stepsTaken_of_ok hrun]
    exact NodeTree.bondsOf_steps config _ _ job.tree
  kept hreject := by
    have hafter := holds_act hholds job
    rw [hreject] at hholds hafter
    have hentries := hafter.registry_eq
    rw [List.map_append, ← hholds.registry_eq] at hentries
    exact ⟨_, hentries.symm⟩
  refused before seat node name policy rest middle hsteps hbefore hreject holder hholder hname := by
    obtain ⟨hpolicy, -⟩ :=
      job.tree.grounded_steps config site.ledger.seat job.target before seat node name policy rest
        hsteps
    have hmiddle := holds_before hholds hsteps hbefore
    rw [hreject] at hmiddle hpolicy
    have hfailed := hmiddle.bind_refused hholder seat node
    rw [hname] at hfailed
    rw [hpolicy] at hsteps
    have hrun := takeSteps_eq_error_iff.mpr
      ⟨before, _, rest, middle, hsteps, hbefore, hfailed⟩
    rw [job.perform_steps config site] at hrun
    exact (Prod.mk.inj hrun).1
  granted before seat node name policy rest middle hsteps hbefore hfree := by
    obtain ⟨rfl, -⟩ :=
      job.tree.grounded_steps config site.ledger.seat job.target before seat node name policy rest
        hsteps
    have hmiddle := holds_before hholds hsteps hbefore
    have hbound := hmiddle.bind_accepted hfree seat node
    rw [accepted, hsteps, stepsTaken_append hbefore, stepsTaken, hbound, bondsOf_append]
    exact List.mem_append_right _ List.mem_cons_self

end Session

end Job

section Session

variable {config : Config}

/-- The bindings that several jobs get accepted join those that were accepted before. -/
theorem holds_runAll {bonds : List Bond} {site : Site Forest}
    (hholds : site.ledger.Holds config.bindingPolicy bonds) (jobs : List Job) :
    (runAll config site jobs).ledger.Holds config.bindingPolicy
      (bonds ++ acceptedAll config site jobs) := by
  induction jobs generalizing site bonds with
  | nil =>
    rw [acceptedAll, List.append_nil]
    exact hholds
  | cons job rest ih =>
    rw [acceptedAll, ← List.append_assoc]
    exact ih (Job.holds_act hholds job)

/-- Whatever a builder is asked for, one job after the other, each of which may fail, at whatever
toolkit and beside whatever elements: its registry is made by the bindings that were accepted, and
the next job, whatever it is, adds to them as it should. -/
theorem registered_runAll (config : Config) (forest : Forest) (elements : Elements)
    (jobs : List Job) :
    let start : Site Forest := { toolkit := forest, elements }
    let site := runAll config start jobs
    let bonds := acceptedAll config start jobs
    site.Registered config.bindingPolicy bonds ∧ ∀ job : Job, job.Binds config bonds site := by
  intro start site bonds
  have hstart : start.ledger.Holds config.bindingPolicy [] :=
    { registry := rfl
      distinct := fun _ => List.nodup_nil
      housed := nofun
      constructed := nofun }
  have hholds := holds_runAll hstart jobs
  rw [List.nil_append] at hholds
  exact ⟨hholds.registered, fun job => job.binds hholds⟩

/-- A name that goes to a newer element keeps its place. -/
example :
    let label (id name : String) : NodeTree :=
      .node { id, widgetType := some "Label", binding := some name } []
    let jobs : List Job :=
      [.process (label "first" "a"), .process (label "second" "b"), .process (label "third" "a")]
    (runAll { bindingPolicy := .overwrite } { toolkit := Forest.empty } jobs).registry =
      [("a", ⟨2⟩), ("b", ⟨1⟩)] := by
  decide +kernel

end Session

end Plan

end WidgetTree
