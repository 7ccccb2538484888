import WidgetTree.Proofs.Node.Form

namespace WidgetTree

open Json

/-- Members with a list of children among them. -/
def listing (before : List (Except Fault String × Document)) (items : List Document)
    (after : List (Except Fault String × Document)) : List (Except Fault String × Document) :=
  before ++ (.ok NodeField.children.name, .list items none) :: after

/-- The same node told otherwise: members in another order, a setting under its other name, or a
child told otherwise. -/
inductive Retells : Document → Document → Prop
  | reorder {members others : List (Except Fault String × Document)} (hperm : members.Perm others) :
      Retells (.object members none) (.object others none)
  | rename {before after : List (Except Fault String × Document)} {name other : String}
      {field : NodeField} (hname : field.answersTo name) (hother : field.answersTo other)
      (document : Document) :
      Retells (.object (before ++ (.ok name, document) :: after) none)
        (.object (before ++ (.ok other, document) :: after) none)
  | child {before after : List (Except Fault String × Document)} {front back : List Document}
      {document other : Document} (hretells : Retells document other) :
      Retells (.object (listing before (front ++ document :: back) after) none)
        (.object (listing before (front ++ other :: back) after) none)
  | trans {first second third : Document} (hfirst : Retells first second)
      (hsecond : Retells second third) : Retells first third

section Members

variable {members others : List (Except Fault String × Document)}

private theorem givenBy_append (before after : List (Except Fault String × Document)) :
    givenBy (before ++ after) = givenBy before ++ givenBy after := List.filterMap_append

/-- Where no setting is given twice, no name is used twice. -/
theorem Recognized.exists_names (hrecognized : Recognized members)
    (honce : (givenBy members).Distinct) :
    ∃ names : List String, members.map Prod.fst = names.map .ok ∧ names.Nodup := by
  induction members with
  | nil => exact ⟨[], rfl, List.nodup_nil⟩
  | cons member rest ih =>
    obtain ⟨⟨name, field, hname, hfield⟩, hrest⟩ := recognized_cons_iff.mp hrecognized
    obtain ⟨named, document⟩ := member
    obtain rfl : named = .ok name := hname
    rw [givenBy_cons_ok hfield, Table.Distinct, Table.keys_cons, List.nodup_cons] at honce
    obtain ⟨names, hnames, hnodup⟩ := ih hrest honce.2
    refine ⟨name :: names, by simp [hnames], List.nodup_cons.mpr ⟨fun hmem => honce.1 ?_, hnodup⟩⟩
    -- the same name again would give the same setting again
    have hagain : Except.ok name ∈ rest.map Prod.fst := hnames ▸ List.mem_map_of_mem hmem
    obtain ⟨⟨_, other⟩, hmember, rfl⟩ := List.mem_map.mp hagain
    refine List.mem_map.mpr ⟨(field, other), List.mem_filterMap.mpr ⟨_, hmember, ?_⟩, rfl⟩
    simp [hfield]

private theorem intact_of_recognized (hrecognized : Recognized members)
    (honce : (givenBy members).Distinct) (hmembers : ∀ member ∈ members, member.2.Intact) :
    Document.Intact (.object members none) := by
  obtain ⟨names, hnames, hnodup⟩ := hrecognized.exists_names honce
  exact .object names hnames hnodup hmembers

private theorem NodeSpec.SaidBy.congr {spec : NodeSpec} (hspec : spec.SaidBy members)
    (hsame : ∀ field, field ≠ .children →
      (givenBy members).get? field = (givenBy others).get? field) : spec.SaidBy others := by
  have hsaid : ∀ field, field ≠ .children → saidBy members field = saidBy others field := by
    intro field hfield
    simp only [saidBy, hsame field hfield]
  exact {
    id := by rw [← hsame .id (by simp), hspec.id]
    kind := by rw [← hsaid .kind (by simp), hspec.kind]
    widgetType := by rw [← hsaid .widgetType (by simp), hspec.widgetType]
    attachStrategy := by rw [← hsaid .attachStrategy (by simp), hspec.attachStrategy]
    childrenAttachStrategy := by
      rw [← hsaid .childrenAttachStrategy (by simp), hspec.childrenAttachStrategy]
    constructorArgs := hsaid .constructorArgs (by simp) ▸ hspec.constructorArgs
    attributes := hsaid .attributes (by simp) ▸ hspec.attributes
    attachArgs := hsaid .attachArgs (by simp) ▸ hspec.attachArgs
    sequence := hsaid .sequence (by simp) ▸ hspec.sequence
    hook := hsaid .hook (by simp) ▸ hspec.hook
    binding := by rw [← hsaid .binding (by simp), hspec.binding] }

private theorem Describes.congr {tree : NodeTree}
    (hdescribes : Describes (.object members none) tree)
    (hrecognized : Recognized others) (honce : (givenBy others).Distinct)
    (hsame : ∀ field, (givenBy members).get? field = (givenBy others).get? field) :
    Describes (.object others none) tree := by
  obtain ⟨-, -, hspec, hlists, hchildren⟩ := hdescribes
  refine .object hrecognized honce (hspec.congr fun field _ => hsame field) ?_ hchildren
  simpa only [ListsChildren, saidBy, hsame] using hlists

end Members

section Listing

variable {before after : List (Except Fault String × Document)} {items others : List Document}

private theorem givenBy_listing :
    givenBy (listing before items after) =
      givenBy before ++ (.children, .list items none) :: givenBy after := by
  rw [listing, givenBy_append, givenBy_cons_ok (NodeField.ofName?_eq_some_children.mpr rfl)]

private theorem distinct_listing (honce : (givenBy (listing before items after)).Distinct) :
    (givenBy (listing before others after)).Distinct := by
  rw [givenBy_listing, Table.Distinct, Table.keys_append, Table.keys_cons] at honce ⊢
  exact honce

private theorem recognized_listing (hrecognized : Recognized (listing before items after)) :
    Recognized (listing before others after) := by
  simpa only [Recognized, listing, List.forall_mem_append, List.forall_mem_cons] using hrecognized

private theorem get?_listing_of_ne {field : NodeField} (hfield : field ≠ .children) :
    (givenBy (listing before items after)).get? field =
      (givenBy (listing before others after)).get? field := by
  simp [givenBy_listing, Table.get?_append, Table.get?, hfield.symm]

private theorem listsChildren_listing_iff
    (honce : (givenBy (listing before items after)).Distinct) :
    ListsChildren (listing before items after) others ↔ others = items := by
  have hmem : (.children, .list items none) ∈ givenBy (listing before items after) := by
    simp [givenBy_listing]
  simp [ListsChildren, saidBy, honce.get?_of_mem hmem, unlessNull, eq_comm]

end Listing

/-- Told otherwise, a node is still told, and is the same. -/
theorem Describes.retold {document other : Document} (hretells : Retells document other)
    (hintact : document.Intact) {tree : NodeTree} (hdescribes : Describes document tree) :
    Describes other tree ∧ other.Intact := by
  induction hretells generalizing tree with
  | @reorder members others hperm =>
    obtain ⟨hrecognized, honce, -⟩ := id hdescribes
    have hgiven : (givenBy members).Perm (givenBy others) := hperm.filterMap _
    have hrecognizedOther : Recognized others := fun member hmember =>
      hrecognized member (hperm.mem_iff.mpr hmember)
    have honceOther : (givenBy others).Distinct := (hgiven.map Prod.fst).nodup_iff.mp honce
    refine ⟨hdescribes.congr hrecognizedOther honceOther (honce.get?_perm hgiven), ?_⟩
    exact intact_of_recognized hrecognizedOther honceOther fun member hmember =>
      hintact.of_mem (hperm.mem_iff.mpr hmember)
  | @rename before after name other field hname hother document =>
    obtain ⟨hrecognized, honce, -⟩ := id hdescribes
    have hgiven : givenBy (before ++ (.ok name, document) :: after) =
        givenBy (before ++ (.ok other, document) :: after) := by
      rw [givenBy_append, givenBy_append,
        givenBy_cons_ok (NodeField.ofName?_eq_some_iff.mpr hname),
        givenBy_cons_ok (NodeField.ofName?_eq_some_iff.mpr hother)]
    have hrecognizedOther : Recognized (before ++ (.ok other, document) :: after) := by
      have haccepted := NodeField.mem_acceptedNames_iff.mpr
        ⟨field, NodeField.ofName?_eq_some_iff.mpr hother⟩
      simp only [Recognized, List.forall_mem_append, List.forall_mem_cons] at hrecognized ⊢
      exact ⟨hrecognized.1, ⟨other, haccepted, rfl⟩, hrecognized.2.2⟩
    refine ⟨hdescribes.congr hrecognizedOther (hgiven ▸ honce) fun _ => by rw [hgiven], ?_⟩
    refine intact_of_recognized hrecognizedOther (hgiven ▸ honce) ?_
    have hmembers : ∀ member ∈ before ++ (.ok name, document) :: after, member.2.Intact :=
      fun _ => hintact.of_mem
    simp only [List.forall_mem_append, List.forall_mem_cons] at hmembers ⊢
    exact hmembers
  | @child before after front back document other hretells ih =>
    obtain ⟨hrecognized, honce, hspec, hlists, hchildren⟩ := hdescribes
    obtain rfl := (listsChildren_listing_iff honce).mp hlists
    have hitems : ∀ child ∈ front ++ document :: back, child.Intact :=
      fun _ => hlists.intact hintact
    obtain ⟨_, himage⟩ := exists_image_of_mem hchildren (List.mem_append_cons_self)
    obtain ⟨-, hother⟩ := ih (hitems document List.mem_append_cons_self) himage
    have hrecognizedOther : Recognized (listing before (front ++ other :: back) after) :=
      recognized_listing hrecognized
    have honceOther : (givenBy (listing before (front ++ other :: back) after)).Distinct :=
      distinct_listing honce
    constructor
    · refine .object hrecognizedOther honceOther (hspec.congr fun _ => get?_listing_of_ne)
        ((listsChildren_listing_iff honceOther).mpr rfl) ?_
      exact forall₂_replace
        (fun image himage => (ih (hitems document List.mem_append_cons_self) himage).1) hchildren
    · refine intact_of_recognized hrecognizedOther honceOther ?_
      have hmembers : ∀ member ∈ listing before (front ++ document :: back) after,
          member.2.Intact := fun _ => hintact.of_mem
      simp only [listing, List.forall_mem_append, List.forall_mem_cons] at hmembers hitems ⊢
      refine ⟨hmembers.1, .list ?_, hmembers.2.2⟩
      simp only [List.forall_mem_append, List.forall_mem_cons]
      exact ⟨hitems.1, hother, hitems.2.2⟩
  | trans _ _ ihFirst ihSecond =>
    obtain ⟨hmiddle, hintactMiddle⟩ := ihFirst hintact hdescribes
    exact ihSecond hintactMiddle hmiddle

private theorem byName_object_iff {members : List (Except Fault String × Document)}
    {fault : Option Fault} :
    ByName (.object members fault) ↔ ∀ items ending,
      (.ok NodeField.children.name, .list items ending) ∈ members →
        ∀ child ∈ items, ByName child := by
  constructor
  · rintro ⟨-, hchildren⟩ items ending hmember child hchild
    exact hchildren child ⟨members, fault, items, ending, rfl, hmember, hchild⟩
  · intro hchildren
    refine .intro (by simp) ?_
    rintro child ⟨_, _, items, ending, heq, hmember, hchild⟩
    cases heq
    exact hchildren items ending hmember child hchild

private theorem ByName.retold {document other : Document} (hretells : Retells document other)
    (hbyName : ByName document) : ByName other := by
  induction hretells with
  | reorder hperm =>
    rw [byName_object_iff] at hbyName ⊢
    exact fun items ending hmember => hbyName items ending (hperm.mem_iff.mpr hmember)
  | @rename before after name other field hname hother document =>
    rw [byName_object_iff] at hbyName ⊢
    intro items ending hmember
    refine hbyName items ending ?_
    simp only [List.mem_append, List.mem_cons, Prod.mk.injEq, Except.ok.injEq] at hmember ⊢
    rcases hmember with hbefore | ⟨hchildren, htold⟩ | hafter
    · exact .inl hbefore
    · -- children have one name only, so that the member was named `children` before too
      have hfield : field = .children := by
        have hgives := NodeField.ofName?_eq_some_iff.mpr hother
        rw [← hchildren, NodeField.ofName?_eq_some_children.mpr rfl] at hgives
        exact (Option.some.inj hgives).symm
      subst hfield
      rw [← NodeField.ofName?_eq_some_iff, NodeField.ofName?_eq_some_children] at hname
      exact .inr (.inl ⟨hname.symm, htold⟩)
    · exact .inr (.inr hafter)
  | @child before after front back document other hretells ih =>
    rw [byName_object_iff] at hbyName ⊢
    simp only [listing, List.mem_append, List.mem_cons, Prod.mk.injEq, true_and,
      Document.list.injEq] at hbyName ⊢
    intro items ending hmember
    rcases hmember with hbefore | ⟨rfl, rfl⟩ | hafter
    · exact hbyName items ending (.inl hbefore)
    · have hold := hbyName _ none (.inr (.inl ⟨rfl, rfl⟩))
      simp only [List.forall_mem_append, List.forall_mem_cons] at hold ⊢
      exact ⟨hold.1, ih hold.2.1, hold.2.2⟩
    · exact hbyName items ending (.inr (.inr hafter))
  | trans _ _ ihFirst ihSecond => exact ihSecond (ihFirst hbyName)

namespace NodeTree

/-- A tree is decoded from a document that is kept as a whole. -/
theorem ofDocument?_eq_ok_iff {document : Document} {tree : NodeTree} :
    ofDocument? document = .ok tree ↔ decodeNode .whole document = .ok tree := by
  cases hdecode : decodeNode .whole document <;> simp [ofDocument?, hdecode, Except.mapError]

/-- Objects whose children are objects again are decoded if they are of the form of a node, to the
tree that they describe, and to the same tree if the node is told otherwise. -/
theorem ofDocument?_as_described {document : Document} (hintact : document.Intact)
    (hbyName : ByName document) :
    ((∃ tree, ofDocument? document = .ok tree) ↔ NodeForm document) ∧
      (∀ tree, ofDocument? document = .ok tree ↔ Describes document tree) ∧
      ∀ tree other, ofDocument? document = .ok tree → Retells document other →
        ofDocument? other = .ok tree := by
  have hdescribes : ∀ tree, ofDocument? document = .ok tree ↔ Describes document tree := by
    intro tree
    rw [ofDocument?_eq_ok_iff, decodeNode_eq_ok_iff_describes hintact hbyName]
  refine ⟨?_, hdescribes, ?_⟩
  · rw [← exists_describes_iff_nodeForm hintact hbyName]
    exact exists_congr hdescribes
  · intro tree other hdecode hretells
    obtain ⟨hother, hintactOther⟩ := ((hdescribes tree).mp hdecode).retold hretells hintact
    rw [ofDocument?_eq_ok_iff,
      decodeNode_eq_ok_iff_describes hintactOther (hbyName.retold hretells)]
    exact hother

/-- A panel with two children, some of it under older names and in no particular order. -/
def panel : Document :=
  .object [(.ok "class_ui", .string "ListBox"), (.ok "id", .string "panel"),
    (.ok "bind_to", .null),
    (.ok "sequence_methods", .list [.list [.object [(.ok "raise", .null)] none] none] none),
    (.ok "children",
      .list [.object [(.ok "id", .string "first"), (.ok "loader", .null)] none,
        .object [(.ok "attach_strategy", .string "place"), (.ok "id", .string "second")] none]
        none),
    (.ok "children_loader", .string "grid")] none

/-- The same panel with another first member, named differently, and a child told otherwise. -/
def panelRetold : Document :=
  .object [(.ok "id", .string "panel"), (.ok "kind", .string "ListBox"),
    (.ok "bind_to", .null),
    (.ok "sequence_methods", .list [.list [.object [(.ok "raise", .null)] none] none] none),
    (.ok "children",
      .list [.object [(.ok "id", .string "first"), (.ok "loader", .null)] none,
        .object [(.ok "loader", .string "place"), (.ok "id", .string "second")] none] none),
    (.ok "children_loader", .string "grid")] none

/-- The panel tells nothing twice. -/
theorem panel_intact : panel.Intact := by
  refine .object ["class_ui", "id", "bind_to", "sequence_methods", "children", "children_loader"]
    rfl (by decide) ?_
  simp only [List.forall_mem_cons]
  refine ⟨.string _, .string _, .null, .list ?_, .list ?_, .string _, by simp⟩
  · simp only [List.forall_mem_cons]
    refine ⟨.list ?_, by simp⟩
    simp only [List.forall_mem_cons]
    exact ⟨.object ["raise"] rfl (by decide) (by simpa using .null), by simp⟩
  · simp only [List.forall_mem_cons]
    refine ⟨.object ["id", "loader"] rfl (by decide) ?_,
      .object ["attach_strategy", "id"] rfl (by decide) ?_, by simp⟩
    · simp only [List.forall_mem_cons]
      exact ⟨.string _, .null, by simp⟩
    · simp only [List.forall_mem_cons]
      exact ⟨.string _, .string _, by simp⟩

private theorem panel_byName : ByName panel := by
  have hplain : ∀ members,
      (∀ member ∈ members, ∃ text, member.2 = .string text ∨ member.2 = .null) →
        ByName (.object members none) := by
    intro members hmembers
    refine byName_object_iff.mpr fun items ending hmember => ?_
    obtain ⟨text, htext | hnull⟩ := hmembers _ hmember
    · cases htext
    · cases hnull
  refine byName_object_iff.mpr ?_
  simp only [List.mem_cons, List.not_mem_nil, or_false, Prod.mk.injEq, Except.ok.injEq,
    NodeField.name, String.reduceEq, false_and, false_or, true_and, Document.list.injEq]
  rintro items ending ⟨rfl, rfl⟩
  simp only [List.forall_mem_cons]
  exact ⟨hplain _ (by simp), hplain _ (by simp), by simp⟩

private theorem panel_retells : Retells panel panelRetold := by
  refine .trans (.reorder (.swap _ _ _)) ?_
  refine .trans (@Retells.rename [_] _ _ "kind" .kind rfl rfl _) ?_
  exact @Retells.child [_, _, _, _] _ [_] _ _ _ (@Retells.rename [] _ _ _ .attachStrategy rfl rfl _)

/-- The panel is decoded as it is described, in one way of telling it and in the other. -/
theorem panel_as_described : ∃ tree, ofDocument? panel = .ok tree ∧
    tree.children.map (·.spec.attachStrategy) = [some "grid", some "place"] ∧
    NodeForm panel ∧ Describes panel tree ∧ ofDocument? panelRetold = .ok tree := by
  have hpanel : (ofDocument? panel).toOption.map
      (fun tree => tree.children.map (·.spec.attachStrategy)) =
        some [some "grid", some "place"] := by decide +kernel
  obtain ⟨tree, hdecoded, hstrategies⟩ := Option.map_eq_some_iff.mp hpanel
  have htree : ofDocument? panel = .ok tree := by
    cases houtcome : ofDocument? panel with
    | error error => simp [houtcome, Except.toOption] at hdecoded
    | ok decoded => simpa [houtcome, Except.toOption] using hdecoded
  obtain ⟨hform, hdescribes, hretold⟩ := ofDocument?_as_described panel_intact panel_byName
  exact ⟨tree, htree, hstrategies, hform.mp ⟨tree, htree⟩, (hdescribes tree).mp htree,
    hretold tree panelRetold htree panel_retells⟩

end NodeTree

end WidgetTree
