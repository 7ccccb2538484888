import WidgetTree.Proofs.Markup.Object

namespace WidgetTree.Markup

open Json

private theorem Attribute.field?_eq_id_iff {a : Attribute} :
    a.field? = some .id ↔ a.qualifier = none ∧ a.name = "id" := by
  obtain ⟨qualifier, name, value⟩ := a
  unfold Attribute.field?
  dsimp only
  split
  · split <;> simp_all
  · simp
  · simp
  · simp_all

namespace Attribute

variable {a : Attribute} {attributes : List Attribute}

/-- The steps of attributes are those of the first and then those of the others. -/
theorem stepsOf_cons_eq_ok_iff {rest : List Attribute} {steps : List RecipeStep} :
    stepsOf (a :: rest) = .ok steps ↔ ∃ step later, a.step = .ok step ∧ stepsOf rest = .ok later ∧
      step.toList ++ later = steps := by
  simp only [stepsOf, except_bind_eq_ok_iff, pure, Except.pure, Except.ok.injEq]
  constructor
  · rintro ⟨step, hstep, later, hlater, hsteps⟩
    exact ⟨step, later, hstep, hlater, hsteps⟩
  · rintro ⟨step, later, hstep, hlater, hsteps⟩
    exact ⟨step, hstep, later, hlater, hsteps⟩

/-- Attributes have steps if each of them has. -/
theorem exists_stepsOf_iff :
    (∃ steps, stepsOf attributes = .ok steps) ↔ ∀ a ∈ attributes, ∃ step, a.step = .ok step := by
  induction attributes with
  | nil => simp [stepsOf]
  | cons a rest ih =>
    rw [List.forall_mem_cons, ← ih]
    simp only [stepsOf_cons_eq_ok_iff]
    constructor
    · rintro ⟨_, step, later, hstep, hlater, -⟩
      exact ⟨⟨step, hstep⟩, later, hlater⟩
    · rintro ⟨⟨step, hstep⟩, later, hlater⟩
      exact ⟨_, step, later, hstep, hlater, rfl⟩

end Attribute

namespace Element

open Attribute

/-- The same element arranged otherwise: an attribute about the strategy of the children stands
somewhere else among attributes that are not, an element without elements inside closes itself or
does not, or this is so of an element inside. -/
inductive Rearranges : Element → Element → Prop
  | move {tag : String} {before between after : List Attribute} {a : Attribute}
      {children : List Element} {closesItself : Bool}
      (hfield : a.field? = some .childrenAttachStrategy)
      (hbetween : ∀ other ∈ between, other.field? ≠ some .childrenAttachStrategy) :
      Rearranges (.element tag (before ++ a :: (between ++ after)) children closesItself)
        (.element tag (before ++ (between ++ a :: after)) children closesItself)
  | close (tag : String) (attributes : List Attribute) (closesItself : Bool) :
      Rearranges (.element tag attributes [] closesItself)
        (.element tag attributes [] (!closesItself))
  | child {tag : String} {attributes : List Attribute} {front back : List Element}
      {closesItself : Bool} {element other : Element} (hrearranges : Rearranges element other) :
      Rearranges (.element tag attributes (front ++ element :: back) closesItself)
        (.element tag attributes (front ++ other :: back) closesItself)
  | symm {element other : Element} (hrearranges : Rearranges element other) :
      Rearranges other element
  | trans {first second third : Element} (hfirst : Rearranges first second)
      (hsecond : Rearranges second third) : Rearranges first third

section Recipes

variable {tag : String} {attributes : List Attribute} {children : List Element}
  {closesItself : Bool}

/-- Elements are for recipes one by one. -/
theorem recipes?_eq_ok_iff {elements : List Element} {recipes : List Recipe} :
    recipes? elements = .ok recipes ↔
      List.Forall₂ (fun element recipe => element.recipe? = .ok recipe) elements recipes := by
  induction elements generalizing recipes with
  | nil => cases recipes <;> simp [recipes?]
  | cons element rest ih =>
    simp only [recipes?, except_bind_eq_ok_iff, ih, List.forall₂_cons_left_iff]
    constructor
    · rintro ⟨recipe, hrecipe, later, hlater, hrecipes⟩
      exact ⟨recipe, later, hrecipe, hlater, (Except.ok.inj hrecipes).symm⟩
    · rintro ⟨recipe, later, hrecipe, hlater, rfl⟩
      exact ⟨recipe, hrecipe, later, hlater, rfl⟩

/-- The recipe of an element begins with the tag as the type of the widget, goes on with the steps
of the attributes and ends with the recipes of the elements inside. -/
theorem recipe?_eq_ok_iff {recipe : Recipe} :
    (element tag attributes children closesItself).recipe? = .ok recipe ↔
      ∃ id steps recipes, Element.id tag attributes = .ok id ∧ stepsOf attributes = .ok steps ∧
        recipes? children = .ok recipes ∧
        recipe = .recipe id (.widgetType tag :: steps) recipes := by
  simp only [recipe?, except_bind_eq_ok_iff]
  constructor
  · rintro ⟨id, hid, steps, hsteps, recipes, hrecipes, hrecipe⟩
    exact ⟨id, steps, recipes, hid, hsteps, hrecipes, (Except.ok.inj hrecipe).symm⟩
  · rintro ⟨id, steps, recipes, hid, hsteps, hrecipes, rfl⟩
    exact ⟨id, hid, steps, hsteps, recipes, hrecipes, rfl⟩

/-- An element is for a recipe if it has an id, each attribute has a step, and each element inside
is for a recipe. -/
theorem exists_recipe_iff :
    (∃ recipe, (element tag attributes children closesItself).recipe? = .ok recipe) ↔
      (∃ id, Element.id tag attributes = .ok id) ∧ (∃ steps, stepsOf attributes = .ok steps) ∧
        ∀ child ∈ children, ∃ recipe, child.recipe? = .ok recipe := by
  simp only [recipe?_eq_ok_iff, recipes?_eq_ok_iff]
  constructor
  · rintro ⟨_, id, steps, recipes, hid, hsteps, hrecipes, -⟩
    exact ⟨⟨id, hid⟩, ⟨steps, hsteps⟩, fun child hchild => exists_image_of_mem hrecipes hchild⟩
  · rintro ⟨⟨id, hid⟩, ⟨steps, hsteps⟩, hchildren⟩
    obtain ⟨recipes, hrecipes⟩ := exists_forall₂ hchildren
    exact ⟨_, id, steps, recipes, hid, hsteps, hrecipes, rfl⟩

/-- An element is plain if the values of its attributes and the elements inside it are. -/
theorem isPlain_iff : (element tag attributes children closesItself).IsPlain ↔
    (∀ a ∈ attributes, a.value.IsPlain) ∧ ∀ child ∈ children, child.IsPlain := by
  constructor
  · rintro ⟨hattributes, hchildren⟩
    exact ⟨hattributes, hchildren⟩
  · rintro ⟨hattributes, hchildren⟩
    exact .element hattributes hchildren

/-- The id of an element is the text of the first attribute that is about it. -/
theorem id_eq_about : Element.id tag attributes =
    (about .id attributes).head?.elim (.error (.missingId tag)) Attribute.text := by
  have hfind : (attributes.find? fun a => a.qualifier.isNone && a.name = "id") =
      (about .id attributes).head? := by
    rw [about, List.head?_filter]
    refine congrFun (congrArg _ (funext fun a => ?_)) _
    rw [Bool.eq_iff_iff]
    simp [field?_eq_id_iff]
  unfold Element.id
  rw [hfind]
  cases (about .id attributes).head? <;> rfl

end Recipes

/-- Elements are told one by one. -/
theorem documents_eq_map (elements : List Element) :
    documents elements = elements.map document := by
  induction elements with
  | nil => rfl
  | cons element rest ih => rw [documents, ih, List.map_cons]

section Alike

variable {tag : String} {attributes others : List Attribute}

private theorem said_congr (habout : ∀ field, about field attributes = about field others)
    (documents : List Document) : said tag attributes documents = said tag others documents := by
  funext field
  cases field <;> simp only [said, habout]

private theorem id_congr (habout : ∀ field, about field attributes = about field others) :
    Element.id tag attributes = Element.id tag others := by
  rw [id_eq_about, id_eq_about, habout]

private theorem about_move {before between after : List Attribute} {a : Attribute}
    (hfield : a.field? = some .childrenAttachStrategy)
    (hbetween : ∀ other ∈ between, other.field? ≠ some .childrenAttachStrategy)
    (field : NodeField) :
    about field (before ++ a :: (between ++ after)) =
      about field (before ++ (between ++ a :: after)) := by
  by_cases heq : field = .childrenAttachStrategy
  · have hnone : about field between = [] := by
      simpa [heq, about, List.filter_eq_nil_iff] using hbetween
    rw [about] at hnone
    simp [about, List.filter_cons, hnone]
  · have hother : a.field? ≠ some field := by
      rw [hfield, ne_eq, Option.some.injEq]
      exact fun hsame => heq hsame.symm
    simp [about, hother]

/-- What elements have in common that differ by their arrangement only. Neither what an element says
nor whether it is for a recipe depends on its arrangement, since both look at the attributes setting
by setting. -/
structure Alike (element other : Element) : Prop where
  document : element.document = other.document
  accepted : (∃ recipe, element.recipe? = .ok recipe) ↔ ∃ recipe, other.recipe? = .ok recipe
  isPlain : element.IsPlain ↔ other.IsPlain

/-- Elements that are arranged otherwise are alike. -/
theorem Rearranges.alike {element other : Element} (hrearranges : Rearranges element other) :
    Alike element other := by
  induction hrearranges with
  | @move tag before between after a children closesItself hfield hbetween =>
    have habout := @about_move before between after a hfield hbetween
    have hmem : ∀ b, b ∈ before ++ a :: (between ++ after) ↔
        b ∈ before ++ (between ++ a :: after) := by
      intro b
      simp only [List.mem_append, List.mem_cons]
      tauto
    constructor
    · simp only [Element.document, said_congr habout]
    · simp only [exists_recipe_iff, id_congr habout, exists_stepsOf_iff, hmem]
    · simp only [isPlain_iff, hmem]
  | close tag attributes closesItself =>
    constructor
    · simp only [Element.document]
    · simp only [exists_recipe_iff]
    · simp only [isPlain_iff]
  | child hrearranges ih =>
    constructor
    · simp only [Element.document, documents_eq_map, List.map_append, List.map_cons, ih.document]
    · simp only [exists_recipe_iff, List.forall_mem_append, List.forall_mem_cons, ih.accepted]
    · simp only [isPlain_iff, List.forall_mem_append, List.forall_mem_cons, ih.isPlain]
  | symm _ ih => exact ⟨ih.document.symm, ih.accepted.symm, ih.isPlain.symm⟩
  | trans _ _ ihFirst ihSecond =>
    exact ⟨ihFirst.document.trans ihSecond.document, ihFirst.accepted.trans ihSecond.accepted,
      ihFirst.isPlain.trans ihSecond.isPlain⟩

end Alike

end Element

end WidgetTree.Markup
