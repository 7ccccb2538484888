import WidgetTree.Proofs.Build.Trace

namespace WidgetTree

namespace Element

/-- An element as the standard resolver makes it and its build leaves it, so far as rows go. -/
def Fresh (element : Element) : Prop :=
  ∀ collection ∈ element.collection?, collection.resolver = .standard ∧ collection.rows = []

private theorem fresh_ofSpec (kind : Option Kind) (spec : NodeSpec) :
    (ofSpec (.ofKind kind) spec).Fresh := by
  cases kind with
  | none => nofun
  | some kind =>
    cases kind with
    | listBox | listBoxTables | listBoxCheckboxes =>
      rintro collection ⟨⟩
      exact ⟨rfl, rfl⟩
    | root | button | checkBox | register | custom => nofun

section Preserves

variable {σ : Type}

private theorem onCore_fresh {α : Type} (act : Act (Work Core σ) α) :
    Act.Preserves (fun work : Work Element σ => work.subject.Fresh) (onCore act) :=
  fun _ hfresh => hfresh

variable [Toolkit σ]

private theorem build_fresh (config : Config) (target : Option WidgetId) :
    Act.Preserves (fun work : Work Element σ => work.subject.Fresh) (build config target) := by
  refine .bind_of (fun _ hfresh => hfresh) ?_
  rintro work element after hfresh hsubject
  cases hsubject
  cases hrole : work.subject.role with
  | generic | button | window | register => exact onCore_fresh _
  | checkbox status =>
    refine .bind (onCore_fresh _) fun _ => .bind (fun _ hfresh => hfresh) fun handle => ?_
    refine .bind (onCore_fresh _) fun _ => ?_
    exact fun _ _ => nofun
  | collection collection =>
    refine .bind ?_ fun _ => onCore_fresh _
    rintro other - _ ⟨⟩
    have hcollection : work.subject.collection? = some collection := by rw [collection?, hrole]
    exact hfresh collection hcollection

private theorem addTabs_fresh (found : List (String × WidgetId)) :
    Act.Preserves (fun work : Work Element σ => work.subject.Fresh) (addTabs found) := by
  induction found with
  | nil => exact .pure ()
  | cons entry rest ih =>
    refine .bind (onCore_fresh _) fun _ => .bind ?_ fun _ => ih
    intro work hfresh
    rw [Act.perform_setSubject]
    dsimp only
    rw [noteTab]
    split
    · exact nofun
    · exact hfresh

private theorem postSubtree_fresh (children : List NodeTree) (bound : String → Option WidgetId) :
    Act.Preserves (fun work : Work Element σ => work.subject.Fresh)
      (postSubtree children bound) := by
  refine .bind (fun _ hfresh => hfresh) fun element => ?_
  split
  · exact .bind (.ofExcept _) fun found => .bind (addTabs_fresh found) fun _ => onCore_fresh _
  · exact onCore_fresh _

end Preserves

end Element

namespace Site

variable {σ : Type}

/-- The elements from the first one on are fresh. -/
def Fresh (first : Nat) (site : Site σ) : Prop :=
  ∀ ref element, first ≤ ref.index → site.elements.get? ref = some element → element.Fresh

private theorem introduce_fresh {element : Element} (hfresh : element.Fresh) (first : Nat) :
    Act.Preserves (Fresh first) (introduce element : Act (Site σ) ElementRef) := by
  intro site hsite ref other hlater hget
  rcases get?_append_cases hget with hold | ⟨rfl, -⟩
  · exact hsite ref other hlater hold
  · exact hfresh

private theorem onElement_fresh {α : Type} {act : Act (Work Element σ) α}
    (hact : Act.Preserves (fun work => work.subject.Fresh) act) (first : Nat) (ref : ElementRef) :
    Act.Preserves (Fresh first) (onElement ref act) := by
  intro site hsite
  cases hget : site.elements.get? ref with
  | none =>
    rw [onElement, Act.perform_mk, hget]
    exact hsite
  | some element =>
    rw [perform_onElement hget]
    intro other after hother hafter
    rcases get?_put_cases hget hafter with ⟨rfl, rfl⟩ | ⟨-, hold⟩
    · exact hact ⟨element, site.toolkit⟩ (hsite other element hother hget)
    · exact hsite other after hother hold

private theorem bind_fresh (first : Nat) (name : Option String) (ref : ElementRef)
    (policy : BindingPolicy) :
    Act.Preserves (Fresh first) (bind name ref policy : Act (Site Forest) Unit) := by
  intro site hsite
  have hkept : ((bind name ref policy).perform site).2.elements = site.elements :=
    (kept_of_bind rfl).1
  unfold Fresh
  rw [hkept]
  exact hsite

end Site

namespace Plan

variable (config : Config)

mutual

/-- The elements that a build makes are fresh, whether or not it succeeds. -/
theorem build_fresh (first : Nat) (target : Option WidgetId) : ∀ tree : NodeTree,
    Act.Preserves (Site.Fresh first) ((Plan.standard config).build target tree :
      Act (Site Forest) ElementRef)
  | .node spec children => by
    rw [build]
    refine .bind_of (.ofExcept _) ?_
    intro site element after _ hmade
    have hstandard := element_standard spec
    rw [Act.perform_ofExcept] at hmade
    obtain ⟨hmade, -⟩ := Prod.mk.inj hmade
    obtain rfl := Except.ok.inj (hstandard.symm.trans hmade)
    have hfresh := Element.fresh_ofSpec (Kind.of? spec) spec
    refine .bind (Site.introduce_fresh hfresh first) fun ref => ?_
    refine .bind (Site.onElement_fresh (Element.build_fresh config target) first ref) fun _ => ?_
    refine .bind (Site.bind_fresh first _ ref _) fun _ => .bind .get fun opened => ?_
    refine .bind (buildAll_fresh first _ children) fun _ => .bind .get fun filled => ?_
    exact .bind (Site.onElement_fresh (Element.postSubtree_fresh children _) first ref)
      fun _ => .pure ref

private theorem buildAll_fresh (first : Nat) (target : Option WidgetId) : ∀ trees : List NodeTree,
    Act.Preserves (Site.Fresh first) ((Plan.standard config).buildAll target trees :
      Act (Site Forest) Unit)
  | [] => .pure ()
  | tree :: rest => by
    rw [buildAll]
    exact .bind (build_fresh first target tree) fun _ => buildAll_fresh first target rest

end

/-- Whether or not a build succeeds, the elements that were made in it are fresh. -/
theorem fresh_of_build {config : Config} {target : Option WidgetId} {tree : NodeTree}
    {site after : Site Forest} {result : Except BuildError ElementRef}
    (hbuild : ((Plan.standard config).build target tree).perform site = (result, after)) :
    after.Fresh site.elements.length := by
  have hpreserves := build_fresh config site.elements.length target tree site
  rw [hbuild] at hpreserves
  refine hpreserves ?_
  intro ref element hlater hget
  have hlength := (List.getElem?_eq_some_iff.mp hget).1
  exact absurd hlength (by omega)

end Plan

end WidgetTree
