import WidgetTree.Proofs.Node.Assembly
import WidgetTree.Proofs.Node.Whole

namespace WidgetTree

open Json

/-- The members that tell a node: those of an object, or the items of a list, each named as the
setting in whose place it stands. -/
def nodeMembers : Document → List (Except Fault String × Document)
  | .object members _ => members
  | .list items _ => (NodeField.all.zip items).map fun place => (.ok place.1.name, place.2)
  | _ => []

/-- What a document declares for a setting. Null declares nothing. -/
def declaredBy (document : Document) (field : NodeField) : Option Document :=
  saidBy (nodeMembers document) field

section Lists

variable {mode : Mode} {fields : List NodeField} {items : List Document}

private theorem given_of_decodeField {field : NodeField} {document : Document}
    {draft next : NodeDraft} (hdecode : decodeField mode field document draft = .ok next) :
    next.given = field :: draft.given := by
  by_cases hfield : field = .children
  · subst hfield
    cases document with
    | null =>
      obtain rfl := Except.ok.inj hdecode
      rfl
    | list items fault =>
      obtain ⟨-, children, -, rfl⟩ := decodeField_list_eq_ok_iff.mp hdecode
      rfl
    | bool | number | string | object | broken => cases hdecode
  · rw [decodeField.eq_def] at hdecode
    simp only [if_neg hfield, except_bind_eq_ok_iff] at hdecode
    obtain ⟨spec, -, hnext⟩ := hdecode
    obtain rfl := Except.ok.inj hnext
    rfl

/-- Items are read as the members of an object that are named as the settings in their places. -/
theorem decodeMembers_of_decodeFields {draft final : NodeDraft} (honce : fields.Nodup)
    (hfresh : ∀ field ∈ fields, field ∉ draft.given)
    (hdecode : decodeFields mode fields items none draft = .ok (final, [])) :
    decodeMembers mode ((fields.zip items).map fun place => (.ok place.1.name, place.2)) draft =
      .ok final := by
  induction fields generalizing items draft with
  | nil =>
    simp only [decodeFields, Except.ok.injEq, Prod.mk.injEq] at hdecode
    simp [decodeMembers, hdecode.1]
  | cons field fields ih =>
    obtain ⟨hnew, honce⟩ := List.nodup_cons.mp honce
    cases items with
    | nil =>
      simp only [decodeFields, closed, liftFault] at hdecode
      by_cases hid : field = .id
      · simp [hid, throw, throwThe, MonadExceptOf.throw, bind, Except.bind] at hdecode
      · simp [hid, bind, Except.bind, pure, Except.pure] at hdecode
        simp [decodeMembers, hdecode]
    | cons document items =>
      obtain ⟨next, hnext, hrest⟩ := decodeFields_cons_ok_iff.mp hdecode
      rw [List.zip_cons_cons, List.map_cons]
      refine decodeMembers_cons_ok_iff.mpr ⟨field, next, ?_, hnext, ih honce ?_ hrest⟩
      · exact NodeDraft.accept_eq_ok_iff.mpr ⟨field.ofName?_name, hfresh field List.mem_cons_self⟩
      · intro other hother
        rw [given_of_decodeField hnext, List.mem_cons, not_or]
        exact ⟨fun heq => hnew (heq ▸ hother), hfresh other (List.mem_cons_of_mem _ hother)⟩

/-- Whatever its form, a document tells a node as the object of its members does. -/
theorem decodeNode_nodeMembers {document : Document} {tree : NodeTree}
    (hdecode : decodeNode mode document = .ok tree) :
    decodeNode mode (.object (nodeMembers document) none) = .ok tree := by
  cases document with
  | null | bool | number | string | broken => cases hdecode
  | object members fault =>
    obtain ⟨-, hdraft⟩ := decodeNode_object_ok_iff.mp hdecode
    exact decodeNode_object_ok_iff.mpr ⟨rfl, hdraft⟩
  | list items fault =>
    obtain ⟨-, draft, hdraft, hfinish⟩ := decodeNode_list_ok_iff.mp hdecode
    refine decodeNode_object_ok_iff.mpr ⟨rfl, draft, ?_, hfinish⟩
    exact decodeMembers_of_decodeFields (by decide) (by simp) hdraft

private theorem intact_nodeMembers {document : Document} (hintact : document.Intact) :
    Document.Intact (.object (nodeMembers document) none) := by
  cases hintact with
  | null | bool | number | string => exact .object [] rfl List.nodup_nil (by simp [nodeMembers])
  | object names hnames honce hmembers => exact .object names hnames honce hmembers
  | @list items hitems =>
    refine .object (((NodeField.all.zip items).map Prod.fst).map NodeField.name)
      (by simp [nodeMembers]) ?_ ?_
    · have hnames : (NodeField.all.map NodeField.name).Nodup := by decide
      refine hnames.sublist (List.Sublist.map _ ?_)
      rw [List.zip_eq_zip_take_min, List.map_fst_zip (by simp)]
      exact List.take_sublist _ _
    · simp only [nodeMembers, List.forall_mem_map]
      exact fun place hplace => hitems _ (List.of_mem_zip hplace).2

end Lists

/-- The steps that a setting calls for by what is declared for it. The id, with which everything
starts, and the children are left out. -/
inductive CallsFor : NodeField → Option Document → List Setting → Prop
  | nothing {field : NodeField} : CallsFor field none []
  | kind (tag : String) : CallsFor .kind (some (.string tag)) [.kind tag]
  | widgetType (name : String) : CallsFor .widgetType (some (.string name)) [.widgetType name]
  | attachStrategy (strategy : String) :
      CallsFor .attachStrategy (some (.string strategy)) [.attachStrategy strategy]
  | childrenAttachStrategy (strategy : String) :
      CallsFor .childrenAttachStrategy (some (.string strategy)) [.childrenAttachStrategy strategy]
  | constructorArgs {document : Document} {fields : Fields Value}
      (htells : TellsFields document fields) :
      CallsFor .constructorArgs (some document)
        (fields.map fun entry => .constructorArg entry.1 entry.2)
  | attributes {document : Document} {fields : Fields Value}
      (htells : TellsFields document fields) :
      CallsFor .attributes (some document) (fields.map fun entry => .attribute entry.1 entry.2)
  | attachArgs {document : Document} {fields : Fields Value}
      (htells : TellsFields document fields) :
      CallsFor .attachArgs (some document) (fields.map fun entry => .attachArg entry.1 entry.2)
  | sequence {document : Document} {sequence : ConfigSequence}
      (htells : TellsSequence document sequence) :
      CallsFor .sequence (some document) [.sequence sequence]
  | hook {document : Document} {fields : Fields Value} (htells : TellsFields document fields) :
      CallsFor .hook (some document) (fields.map fun entry => .hookCall entry.1 entry.2)
  | binding (name : String) : CallsFor .binding (some (.string name)) [.binding name]

open Setting in
/-- A tree is put together as a document declares it: from the id, by the steps that each setting
calls for, in any order that keeps those about one setting in theirs, with one step for each child,
which is put together as its own document declares it. -/
inductive MadeBy : Document → NodeTree → Prop
  | chain {document : Document} {id : String} {settings : List Setting} {items : List Document}
      {trees : List NodeTree}
      (hid : declaredBy document .id = some (.string id))
      (hsteps : ∀ field, field ≠ .id → field ≠ .children →
        CallsFor field (declaredBy document field) (about field settings))
      (hitems : declaredBy document .children = none ∧ items = [] ∨
        declaredBy document .children = some (.list items none))
      (htrees : List.Forall₂ MadeBy items trees)
      (hchildren : about .children settings = trees.map .child) :
      MadeBy document (.ofSettings id settings)

private theorem CallsFor.field_eq {field : NodeField} {said : Option Document}
    {steps : List Setting}
    (hcalls : CallsFor field said steps) : ∀ step ∈ steps, step.field = field := by
  cases hcalls with
  | nothing => simp
  | kind | widgetType | attachStrategy | childrenAttachStrategy | sequence | binding =>
    exact List.forall_mem_singleton.mpr rfl
  | constructorArgs | attributes | attachArgs | hook =>
    exact List.forall_mem_map.mpr fun _ _ => rfl

private theorem ReadFrom.unique {α : Type} {read : Document → Except Problem α}
    {default part other : α} {given : Option Document} (hpart : ReadFrom read default given part)
    (hother : ReadFrom read default given other) : part = other := by
  cases given with
  | none => exact hpart.trans hother.symm
  | some document => exact Except.ok.inj (hpart.symm.trans hother)

section Steps

open NodeTree Setting

variable {members : List (Except Fault String × Document)} {spec : NodeSpec} {field : NodeField}

/-- Arguments are read by giving each entry its value in turn. -/
theorem Json.Document.Intact.fields?_eq_ok_foldl {document : Document} (hintact : document.Intact)
    (hnull : document ≠ .null) {fields : Fields Value} (htells : TellsFields document fields) :
    document.fields? = .ok (fields.foldl (fun table entry => table.insert entry.1 entry.2) []) := by
  have hself : Table.ofPairs fields = fields := by
    obtain ⟨members, rfl, htabulates⟩ := htells
    exact hintact.ofPairs_eq_self htabulates
  rw [(hintact.fields?_eq_ok_iff hnull).mpr htells]
  exact congrArg Except.ok hself.symm

/-- Steps of one kind change a setting entry by entry. -/
theorem part_foldl_map {α : Type} {step : α → Setting} {grow : field.Part → α → field.Part}
    (hstep : ∀ tree entry, (NodeTree.apply tree (step entry)).part field =
      grow (tree.part field) entry) (entries : List α) (tree : NodeTree) :
    ((entries.map step).foldl apply tree).part field = entries.foldl grow (tree.part field) := by
  induction entries generalizing tree with
  | nil => rfl
  | cons entry rest ih => rw [List.map_cons, List.foldl_cons, ih, hstep, List.foldl_cons]

private theorem foldl_append_shaped (fields : Fields Value) (calls : List Call) :
    fields.foldl (fun calls entry => calls ++ [Call.shaped entry.1 entry.2]) calls =
      calls ++ Call.ofMapping fields := by
  induction fields generalizing calls with
  | nil => simp [Call.ofMapping]
  | cons entry rest ih => simp [ih, Call.ofMapping]

private theorem part_ofId (hid : field ≠ .id) (id : String) :
    (ofId id).part field = ({} : NodeDraft).part field := by
  cases field <;> first | rfl | exact absurd rfl hid

private theorem read_null (hid : field ≠ .id) (mode : Mode) :
    field.read mode .null = .ok (({} : NodeDraft).part field) := by
  cases field <;> first | rfl | exact absurd rfl hid

/-- The steps that a declared setting calls for make of it what its declaration is read as. -/
theorem CallsFor.read_eq_ok {document : Document} (hintact : document.Intact)
    (hnull : document ≠ .null) {steps : List Setting}
    (hcalls : CallsFor field (some document) steps) (mode : Mode) (id : String) :
    field.read mode document = .ok ((steps.foldl apply (ofId id)).part field) := by
  cases hcalls with
  | kind | widgetType | attachStrategy | childrenAttachStrategy | binding => rfl
  | @constructorArgs _ fields htells =>
    rw [@part_foldl_map .constructorArgs _ _ (fun table entry => table.insert entry.1 entry.2)
      (fun _ _ => rfl)]
    exact hintact.fields?_eq_ok_foldl hnull htells
  | @attributes _ fields htells =>
    rw [@part_foldl_map .attributes _ _ (fun table entry => table.insert entry.1 entry.2)
      (fun _ _ => rfl)]
    exact hintact.fields?_eq_ok_foldl hnull htells
  | @attachArgs _ fields htells =>
    rw [@part_foldl_map .attachArgs _ _ (fun table entry => table.insert entry.1 entry.2)
      (fun _ _ => rfl)]
    exact hintact.fields?_eq_ok_foldl hnull htells
  | @sequence _ sequence htells =>
    have hread : decodeOptionalSequence document = (decodeSequence document).map some := by
      cases document <;> first | rfl | exact absurd rfl hnull
    rw [NodeField.read, hread, hintact.decodeSequence_eq_ok_iff.mpr htells]
    rfl
  | @hook _ fields htells =>
    rw [@part_foldl_map .hook _ _ (fun calls entry => calls ++ [Call.shaped entry.1 entry.2])
      (fun _ _ => rfl), foldl_append_shaped, NodeField.read,
      (hintact.fields?_eq_ok_iff hnull).mpr htells]
    rfl

/-- Once the steps that a setting calls for are taken, it is what is read for it. -/
theorem CallsFor.readFrom {given : Option Document} (hintact : ∀ document ∈ given, document.Intact)
    {steps : List Setting} (hcalls : CallsFor field (unlessNull given) steps) (hid : field ≠ .id)
    (mode : Mode) (id : String) :
    ReadFrom (field.read mode) (({} : NodeDraft).part field) given
      ((steps.foldl apply (ofId id)).part field) := by
  cases given with
  | none =>
    cases hcalls
    exact part_ofId hid id
  | some document =>
    by_cases hnull : document = .null
    · subst hnull
      cases hcalls
      exact (read_null hid mode).trans (congrArg _ (part_ofId hid id).symm)
    · rw [unlessNull_some hnull] at hcalls
      exact hcalls.read_eq_ok (hintact document rfl) hnull mode id

private theorem exists_callsFor_text {make : String → Setting}
    (hcalls : ∀ text, CallsFor field (some (.string text)) [make text]) {said : Option Document}
    {text : Option String} (hsaid : said = text.map .string) :
    ∃ steps, CallsFor field said steps := by
  subst hsaid
  cases text with
  | none => exact ⟨_, .nothing⟩
  | some text => exact ⟨_, hcalls text⟩

private theorem exists_callsFor_fields {make : String × Value → Setting}
    (hcalls : ∀ document fields, TellsFields document fields →
      CallsFor field (some document) (fields.map make)) {said : Option Document}
    {fields : Fields Value} (hsaid : SaysFields said fields) :
    ∃ steps, CallsFor field said steps := by
  obtain ⟨rfl, -⟩ | ⟨document, rfl, htells⟩ := hsaid
  · exact ⟨_, .nothing⟩
  · exact ⟨_, hcalls document fields htells⟩

/-- Whatever is said for the settings of a node calls for some steps. -/
theorem NodeSpec.SaidBy.exists_callsFor (hspec : spec.SaidBy members) (hid : field ≠ .id)
    (hchildren : field ≠ .children) : ∃ steps, CallsFor field (saidBy members field) steps := by
  cases field with
  | id => exact absurd rfl hid
  | kind => exact exists_callsFor_text .kind hspec.kind
  | widgetType => exact exists_callsFor_text .widgetType hspec.widgetType
  | attachStrategy => exact exists_callsFor_text .attachStrategy hspec.attachStrategy
  | childrenAttachStrategy =>
    exact exists_callsFor_text .childrenAttachStrategy hspec.childrenAttachStrategy
  | constructorArgs =>
    exact exists_callsFor_fields (fun _ _ => .constructorArgs) hspec.constructorArgs
  | attributes => exact exists_callsFor_fields (fun _ _ => .attributes) hspec.attributes
  | attachArgs => exact exists_callsFor_fields (fun _ _ => .attachArgs) hspec.attachArgs
  | sequence =>
    have hsequence := hspec.sequence
    generalize saidBy members .sequence = said at hsequence
    generalize spec.sequence = told at hsequence
    cases hsequence with
    | none => exact ⟨_, .nothing⟩
    | some htells => exact ⟨_, .sequence htells⟩
  | hook =>
    obtain ⟨fields, hsaid, -⟩ := hspec.hook
    exact exists_callsFor_fields (fun _ _ => .hook) hsaid
  | binding => exact exists_callsFor_text .binding hspec.binding
  | children => exact absurd rfl hchildren

end Steps

section Chains

open NodeTree Setting

variable {settings : List Setting}

private theorem about_children (settings : List Setting) :
    about .children settings = (childrenOf settings).map .child := by
  induction settings with
  | nil => rfl
  | cons setting rest ih =>
    rw [childrenOf_cons, List.map_append, ← ih]
    cases setting <;> simp [about, field, child?]

private theorem about_strategies (settings : List Setting) :
    about .childrenAttachStrategy settings =
      (strategiesOf settings).map .childrenAttachStrategy := by
  induction settings with
  | nil => rfl
  | cons setting rest ih =>
    rw [strategiesOf_cons, List.map_append, ← ih]
    cases setting <;> simp [about, field, strategy?]

/-- Steps listed setting by setting are, about each setting, those listed for it. -/
theorem about_flatMap {steps : NodeField → List Setting}
    (hfield : ∀ field, ∀ step ∈ steps field, step.field = field) (field : NodeField) :
    about field (NodeField.all.flatMap steps) = steps field := by
  have heach : ∀ other, about field (steps other) = if other = field then steps field else [] := by
    intro other
    by_cases hsame : other = field
    · subst hsame
      rw [if_pos rfl]
      exact List.filter_eq_self.mpr fun step hstep => by simp [hfield other step hstep]
    · rw [if_neg hsame]
      exact List.filter_eq_nil_iff.mpr fun step hstep => by simp [hfield other step hstep, hsame]
  rw [about, List.filter_flatMap]
  simp only [about] at heach
  simp only [heach]
  cases field <;> simp [NodeField.all]

private theorem about_id (settings : List Setting) : about .id settings = [] :=
  List.filter_eq_nil_iff.mpr fun setting _ => by cases setting <;> simp [Setting.field]

private theorem childrenOf_of_about {trees : List NodeTree}
    (hchildren : about .children settings = trees.map .child) : childrenOf settings = trees := by
  rw [about_children] at hchildren
  exact List.map_injective_iff.mpr (fun _ _ => Setting.child.inj) hchildren

/-- What is declared of how direct children attach is said once, or not at all. -/
theorem strategiesOf_of_callsFor {strategy : Option String}
    (hcalls : CallsFor .childrenAttachStrategy (strategy.map .string)
      (about .childrenAttachStrategy settings)) : strategiesOf settings = strategy.toList := by
  rw [about_strategies] at hcalls
  cases strategy with
  | none =>
    generalize hsteps : (strategiesOf settings).map Setting.childrenAttachStrategy = steps at hcalls
    cases hcalls
    exact List.map_eq_nil_iff.mp hsteps
  | some strategy =>
    generalize hsteps : (strategiesOf settings).map Setting.childrenAttachStrategy = steps at hcalls
    cases hcalls with
    | childrenAttachStrategy =>
      have hmap := hsteps.trans
        (List.map_cons (f := Setting.childrenAttachStrategy) (a := strategy) (l := [])).symm
      exact List.map_injective_iff.mpr (fun _ _ => Setting.childrenAttachStrategy.inj) hmap

private theorem part_settled {field : NodeField} (hchildren : field ≠ .children) (spec : NodeSpec)
    (trees : List NodeTree) :
    (settled spec trees).part field = NodeDraft.part { spec, children := trees } field := by
  cases field <;> first | rfl | exact absurd rfl hchildren

variable {members : List (Except Fault String × Document)} {mode : Mode} {spec : NodeSpec}
  {items : List Document} {trees : List NodeTree}

/-- Steps that are called for by what is said for a node put it together. -/
theorem ofSettings_eq_settled (hintact : Document.Intact (.object members none))
    (hspec : spec.SaidBy members) (hlists : ListsChildren members items)
    (htrees : decodeNodes mode items = .ok trees)
    (hsteps : ∀ field, field ≠ .id → field ≠ .children →
      CallsFor field (saidBy members field) (about field settings))
    (hchildren : about .children settings = trees.map .child) :
    ofSettings spec.id settings = settled spec trees := by
  have hread : ∀ field, ReadFrom (field.read mode) (({} : NodeDraft).part field)
      ((givenBy members).get? field) (NodeDraft.part { spec, children := trees } field) :=
    (NodeDraft.readFrom_iff_saidBy hintact).mpr ⟨hspec, items, hlists, htrees⟩ |>.1
  refine ext_of_part (fun field hfield => ?_) ?_
  · rw [ofSettings, part_foldl_about hfield, part_settled hfield]
    by_cases hid : field = .id
    · subst hid
      rw [about_id]
      rfl
    · exact ((hsteps field hid hfield).readFrom hintact.of_given hid mode spec.id).unique
        (hread field)
  · have hcalls := hsteps .childrenAttachStrategy (by simp) (by simp)
    rw [hspec.childrenAttachStrategy] at hcalls
    have hsaid := strategiesOf_of_callsFor hcalls
    have hjoined : joined none settings =
        (childrenOf settings).map (·.inheriting (none.or (strategiesOf settings).head?)) := by
      refine @joined_of_agree _ _ (spec.childrenAttachStrategy.getD "") (by simp) ?_
      rw [hsaid]
      cases spec.childrenAttachStrategy <;> simp
    have hnone : (ofId spec.id).children = [] ∧
        (ofId spec.id).spec.childrenAttachStrategy = none := ⟨rfl, rfl⟩
    rw [ofSettings, children_foldl_apply, hnone.1, hnone.2, hjoined, hsaid,
      childrenOf_of_about hchildren]
    cases hstrategy : spec.childrenAttachStrategy <;> simp [settled, hstrategy, NodeTree.children]

/-- Some steps are called for by what is said for a node. -/
theorem exists_settings (hspec : spec.SaidBy members) (trees : List NodeTree) :
    ∃ settings : List Setting, (∀ field, field ≠ .id → field ≠ .children →
      CallsFor field (saidBy members field) (about field settings)) ∧
      about .children settings = trees.map .child := by
  have hsteps : ∀ field, ∃ steps : List Setting, (∀ step ∈ steps, step.field = field) ∧
      (field ≠ .id → field ≠ .children → CallsFor field (saidBy members field) steps) ∧
      (field = .children → steps = trees.map .child) := by
    intro field
    by_cases hid : field = .id
    · exact ⟨[], by simp, fun hne => absurd hid hne, by simp [hid]⟩
    · by_cases hchildren : field = .children
      · exact ⟨trees.map .child, by simp [hchildren, Setting.field],
          fun _ hne => absurd hchildren hne, fun _ => rfl⟩
      · obtain ⟨steps, hcalls⟩ := hspec.exists_callsFor hid hchildren
        exact ⟨steps, hcalls.field_eq, fun _ _ => hcalls, fun heq => absurd heq hchildren⟩
  choose steps hfield hcalls hchildren using hsteps
  refine ⟨NodeField.all.flatMap steps, fun field hid hne => ?_, ?_⟩
  · rw [about_flatMap hfield]
    exact hcalls field hid hne
  · rw [about_flatMap hfield]
    exact hchildren .children rfl

end Chains

/-- What a document is decoded to is what is put together as it declares. -/
def DecodedAsMade (document : Document) : Prop :=
  ∀ tree, decodeNode .whole document = .ok tree → ∀ made, MadeBy document made ↔ made = tree

private theorem ListsChildren.unique {members : List (Except Fault String × Document)}
    {items others : List Document} (hitems : ListsChildren members items)
    (hothers : ListsChildren members others) : items = others := by
  obtain ⟨hnone, rfl⟩ | hsome := hitems <;> obtain ⟨hnone', rfl⟩ | hsome' := hothers
  · rfl
  · cases hnone.symm.trans hsome'
  · cases hnone'.symm.trans hsome
  · cases hsome.symm.trans hsome'
    rfl

/-- Children that are decoded as they are made are made in one way. -/
theorem forall₂_madeBy_iff {items : List Document} {trees mades : List NodeTree}
    (heach : ∀ item ∈ items, DecodedAsMade item) (htrees : decodeNodes .whole items = .ok trees) :
    List.Forall₂ MadeBy items mades ↔ mades = trees := by
  have hdecoded := decodeNodes_eq_ok_iff.mp htrees
  have hsame : ∀ item ∈ items, ∀ made, MadeBy item made ↔ decodeNode .whole item = .ok made := by
    intro item hitem made
    obtain ⟨tree, htree⟩ := exists_image_of_mem hdecoded hitem
    rw [heach item hitem tree htree made, htree, Except.ok.injEq, eq_comm]
  rw [forall₂_congr_of_mem hsame, ← decodeNodes_eq_ok_iff, htrees, Except.ok.injEq, eq_comm]

private theorem decodedAsMade_of_children {document : Document} (hintact : document.Intact)
    (heach : ∀ items, declaredBy document .children = some (.list items none) →
      ∀ item ∈ items, DecodedAsMade item) : DecodedAsMade document := by
  intro tree hdecode made
  have hmembers := intact_nodeMembers hintact
  obtain ⟨-, -, spec, items, trees, hspec, hlists, htrees, rfl⟩ :=
    (decodeNode_object_eq_ok_iff_saidBy hmembers).mp (decodeNode_nodeMembers hdecode)
  have hitems : ∀ item ∈ items, DecodedAsMade item := by
    obtain ⟨-, rfl⟩ | hsaid := hlists
    · simp
    · exact heach items hsaid
  constructor
  · rintro @⟨_, id, settings, others, mades, hid, hsteps, hothers, hmades, hchildren⟩
    obtain rfl := hlists.unique hothers
    obtain rfl := (forall₂_madeBy_iff hitems htrees).mp hmades
    have hsame : some (Document.string spec.id) = some (.string id) :=
      hspec.id.symm.trans (saidBy_eq_some_iff.mp hid).1
    obtain rfl : spec.id = id := by simpa using hsame
    exact ofSettings_eq_settled hmembers hspec hlists htrees hsteps hchildren
  · rintro rfl
    obtain ⟨settings, hsteps, hchildren⟩ := exists_settings hspec trees
    rw [← ofSettings_eq_settled hmembers hspec hlists htrees hsteps hchildren]
    refine .chain ?_ hsteps hlists ((forall₂_madeBy_iff hitems htrees).mpr rfl) hchildren
    exact saidBy_eq_some_iff.mpr ⟨hspec.id, by simp⟩

private theorem Json.Document.Intact.decodedAsMade {document : Document}
    (hintact : document.Intact) : DecodedAsMade document := by
  -- the children stand in a list, which is a document in between
  suffices hboth : DecodedAsMade document ∧
      ∀ items, document = .list items none → ∀ item ∈ items, DecodedAsMade item from hboth.1
  induction hintact with
  | null | bool | number | string =>
    refine ⟨fun tree hdecode => ?_, by simp⟩
    cases hdecode
  | @list items hitems ih =>
    refine ⟨decodedAsMade_of_children (.list hitems) fun nodes hsaid => ?_, ?_⟩
    · intro node hnode
      have hlists : ListsChildren (nodeMembers (.list items none)) nodes := .inr hsaid
      obtain ⟨place, hplace, hmember⟩ := List.mem_map.mp (hlists.mem hnode)
      have hlist : place.2 = .list nodes none := congrArg Prod.snd hmember
      exact (ih _ (List.of_mem_zip hplace).2).2 nodes hlist node hnode
    · rintro _ ⟨⟩ item hitem
      exact (ih item hitem).1
  | @object members names hnames honce hmembers ih =>
    refine ⟨decodedAsMade_of_children (.object names hnames honce hmembers) fun nodes hsaid => ?_,
      by simp⟩
    intro node hnode
    have hlists : ListsChildren members nodes := .inr hsaid
    exact (ih _ (hlists.mem hnode)).2 nodes rfl node hnode

namespace NodeTree

/-- Whatever the order of the steps about different settings, at every depth, what is put together
as a document declares is the tree that the document is decoded to, and that tree can be put
together so. -/
theorem madeBy_iff_eq_decoded {document : Document} (hintact : document.Intact) {tree : NodeTree}
    (hdecode : ofDocument? document = .ok tree) (made : NodeTree) :
    MadeBy document made ↔ made = tree :=
  hintact.decodedAsMade tree (ofDocument?_eq_ok_iff.mp hdecode) made

/-- The panel with its children first and its kind last. -/
theorem panel_made_from_its_children :
    let raise : ConfigSequence := .nested [.nested [.steps [.shaped "raise" .null]]]
    let second := ofSettings "second" [.attachStrategy "place"]
    panel.Intact ∧ ofDocument? panel = .ok (ofSettings "panel"
      [.child (ofSettings "first" []), .childrenAttachStrategy "grid", .sequence raise,
        .child second, .kind "ListBox"]) := by
  intro raise second
  have hfirst : MadeBy (.object [(.ok "id", .string "first"), (.ok "loader", .null)] none)
      (ofSettings "first" []) := by
    refine @MadeBy.chain _ "first" [] [] [] rfl (fun field hid hchildren => ?_) (.inl ⟨rfl, rfl⟩)
      .nil rfl
    cases field <;> first | exact .nothing | contradiction
  have hsecond : MadeBy (.object [(.ok "attach_strategy", .string "place"),
      (.ok "id", .string "second")] none) second := by
    refine @MadeBy.chain _ "second" [.attachStrategy "place"] [] [] rfl
      (fun field hid hchildren => ?_) (.inl ⟨rfl, rfl⟩) .nil rfl
    cases field <;> first | exact .nothing | exact .attachStrategy "place" | contradiction
  have hmade : MadeBy panel (ofSettings "panel"
      [.child (ofSettings "first" []), .childrenAttachStrategy "grid", .sequence raise,
        .child second, .kind "ListBox"]) := by
    refine @MadeBy.chain _ "panel" _ _ [ofSettings "first" [], second] rfl
      (fun field hid hchildren => ?_) (.inr rfl) (.cons hfirst (.cons hsecond .nil)) rfl
    cases field with
    | kind => exact .kind "ListBox"
    | childrenAttachStrategy => exact .childrenAttachStrategy "grid"
    | sequence =>
      have hraise : TellsSequence (.object [(.ok "raise", .null)] none)
          (.steps [.shaped "raise" .null]) :=
        @TellsSequence.steps _ [("raise", .null)] ⟨_, rfl, .cons ⟨rfl, rfl⟩ .nil⟩
      exact .sequence (.nested (.cons (.nested (.cons hraise .nil)) .nil))
    | id | children => contradiction
    | _ => exact .nothing
  have hread : (ofDocument? panel).toOption.isSome = true := by decide +kernel
  cases hdecode : ofDocument? panel with
  | error error => simp [hdecode, Except.toOption] at hread
  | ok tree =>
    rw [(madeBy_iff_eq_decoded panel_intact hdecode _).mp hmade]
    exact ⟨panel_intact, rfl⟩

end NodeTree

end WidgetTree
