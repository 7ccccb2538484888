import WidgetTree.Registry
import WidgetTree.Resolver

namespace WidgetTree

open Text

/-- The settings of a builder. A builder turns a description into widgets: the element of a node is
made and built inside the widget of the node around it, and bound under its name; then its children
are built in order, and then comes what the element does once all of them are built. The first
failure ends the build, and what was done before it stays. -/
structure Plan where
  resolver : Resolver := .standard
  config : Config := {}

/-- Where a builder works: a toolkit, all elements, and the registry of the builder. -/
structure Site (σ : Type) where
  toolkit : σ
  elements : Elements := []
  registry : Registry := []

namespace Site

variable {σ : Type}

/-- Adds an element that was just made. -/
def introduce (element : Element) : Act (Site σ) ElementRef :=
  ExceptT.mk fun site =>
    (.ok site.elements.next, { site with elements := site.elements ++ [element] })

/-- An act on the element that is referred to. -/
def onElement {α : Type} (ref : ElementRef) (act : Act (Work Element σ) α) : Act (Site σ) α :=
  ExceptT.mk fun site =>
    match site.elements.get? ref with
    | none => (.error (.configuration "" "no such element"), site)
    | some element =>
      let (result, work) := act.perform { subject := element, toolkit := site.toolkit }
      (result, { site with
        toolkit := work.toolkit
        elements := site.elements.put ref work.subject })

/-- Binds an element under the name that its node gives, if it gives one. -/
def bind (name : Option String) (ref : ElementRef) (policy : BindingPolicy) : Act (Site σ) Unit :=
  match name with
  | none => pure ()
  | some name => do
    let site ← get
    let registry ← Act.ofExcept (site.registry.bind site.elements name ref policy)
    set { site with registry }

/-- The widget of the element that is referred to. -/
def widgetOf (site : Site σ) (ref : ElementRef) : Option WidgetId :=
  (site.elements.get? ref).bind Element.widget

/-- The widget of the element bound under a name. -/
def bound (site : Site σ) (name : String) : Option WidgetId :=
  site.registry.widget? site.elements name

end Site

namespace Plan

variable {σ : Type} [Toolkit σ]

mutual

/-- Builds a tree inside a widget, or at the top without one. -/
def build (plan : Plan) (target : Option WidgetId) : NodeTree → Act (Site σ) ElementRef
  | .node spec children => do
    let element ← Act.ofExcept (plan.resolver.element spec)
    let ref ← Site.introduce element
    Site.onElement ref (Element.build plan.config target)
    Site.bind spec.binding ref plan.config.bindingPolicy
    let site ← get
    buildAll plan (site.widgetOf ref) children
    let site ← get
    Site.onElement ref (Element.postSubtree children site.bound)
    return ref

/-- Builds trees inside a widget, in order. -/
def buildAll (plan : Plan) (target : Option WidgetId) : List NodeTree → Act (Site σ) Unit
  | [] => pure ()
  | tree :: rest => do
    let _ ← build plan target tree
    buildAll plan target rest

end

/-- Builds a whole description at the top and gives all bindings so far. -/
def process (plan : Plan) (tree : NodeTree) : Act (Site σ) Registry := do
  let _ ← build plan none tree
  let site ← get
  return site.registry

/-- The settings of a builder and its registry as a listing. -/
def listing (plan : Plan) (registry : Registry) (elements : Elements) : String :=
  let config := plan.config
  let optional (text : Option String) : String :=
    match text with
    | none => "None"
    | some text => "Some(" ++ quote text ++ ")"
  let policy := match config.bindingPolicy with
    | .reject => "Reject"
    | .overwrite => "Overwrite"
  let settings :=
    [ "root_widget_type: " ++ quote config.rootWidgetType,
      "default_geometry: " ++ optional config.defaultGeometry,
      "default_title: " ++ optional config.defaultTitle,
      "register_widget_type: " ++ quote config.registerWidgetType,
      "default_attach_strategy: " ++ optional config.defaultAttachStrategy,
      "binding_policy: " ++ policy ]
  "TreeBuilder \x7b config: BuilderConfig \x7b " ++ ", ".intercalate settings ++
    " \x7d, registry: " ++ registry.listing elements ++ ", .. \x7d"

end Plan

end WidgetTree
