import WidgetTree.Proofs.Node.Draft

namespace WidgetTree

open Json

section Pointwise

variable {α β : Type} {relates other : α → β → Prop} {items : List α}

/-- Relations that agree on the items relate them to the same images. -/
theorem forall₂_congr_of_mem
    (heach : ∀ item ∈ items, ∀ image, relates item image ↔ other item image)
    {images : List β} : List.Forall₂ relates items images ↔ List.Forall₂ other items images := by
  induction items generalizing images with
  | nil => simp
  | cons item rest ih =>
    have hfirst := heach item (by simp)
    have hrest : ∀ images, List.Forall₂ relates rest images ↔ List.Forall₂ other rest images :=
      fun _ => ih fun later hlater => heach later (by simp [hlater])
    simp only [List.forall₂_cons_left_iff, hfirst, hrest]

/-- If each item has an image, the items have images. -/
theorem exists_forall₂ (heach : ∀ item ∈ items, ∃ image, relates item image) :
    ∃ images, List.Forall₂ relates items images := by
  induction items with
  | nil => exact ⟨[], .nil⟩
  | cons item rest ih =>
    obtain ⟨image, himage⟩ := heach item (by simp)
    obtain ⟨images, himages⟩ := ih fun later hlater => heach later (by simp [hlater])
    exact ⟨image :: images, .cons himage himages⟩

/-- Each of related items has an image. -/
theorem exists_image_of_mem {images : List β} (heach : List.Forall₂ relates items images) {item : α}
    (hitem : item ∈ items) : ∃ image, relates item image := by
  obtain ⟨place, hplace, rfl⟩ := List.mem_iff_getElem.mp hitem
  exact ⟨_, heach.get hplace (heach.length_eq ▸ hplace)⟩

/-- An item may be replaced by one that relates to all that it relates to. -/
theorem forall₂_replace {front back : List α} {item replacement : α}
    (hreplace : ∀ image, relates item image → relates replacement image) {images : List β}
    (heach : List.Forall₂ relates (front ++ item :: back) images) :
    List.Forall₂ relates (front ++ replacement :: back) images := by
  induction front generalizing images with
  | nil =>
    obtain ⟨image, later, himage, hlater, rfl⟩ := List.forall₂_cons_left_iff.mp heach
    exact .cons (hreplace image himage) hlater
  | cons first rest ih =>
    obtain ⟨image, later, himage, hlater, rfl⟩ := List.forall₂_cons_left_iff.mp heach
    exact .cons himage (ih hlater)

/-- Two relations in turn relate items by way of what is in between. -/
theorem forall₂_exists_and_iff {γ : Type} {next : β → γ → Prop} {results : List γ} :
    List.Forall₂ (fun item result => ∃ image, relates item image ∧ next image result)
        items results ↔
      ∃ images, List.Forall₂ relates items images ∧ List.Forall₂ next images results := by
  induction items generalizing results with
  | nil => simp
  | cons item rest ih =>
    simp only [List.forall₂_cons_left_iff, ih]
    constructor
    · rintro ⟨result, later, ⟨image, himage, hresult⟩, ⟨images, himages, hlater⟩, rfl⟩
      exact ⟨image :: images, ⟨image, images, himage, himages, rfl⟩, .cons hresult hlater⟩
    · rintro ⟨_, ⟨image, images, himage, himages, rfl⟩, hresults⟩
      obtain ⟨result, later, hresult, hlater, rfl⟩ := List.forall₂_cons_left_iff.mp hresults
      exact ⟨result, later, ⟨image, himage, hresult⟩, ⟨images, himages, hlater⟩, rfl⟩

/-- Where each item has an image that suits what is made of it as well, the lists have images that
suit. -/
theorem exists_forall₂_of_made {γ : Type} {made : α → γ → Prop} {suits : γ → β → Prop}
    {products : List γ} (hmade : List.Forall₂ made items products)
    (heach : ∀ item ∈ items, ∀ product, made item product →
      ∃ image, suits product image ∧ relates item image) :
    ∃ images, List.Forall₂ suits products images ∧ List.Forall₂ relates items images := by
  induction hmade with
  | nil => exact ⟨[], .nil, .nil⟩
  | @cons item product items products hitem _ ih =>
    obtain ⟨image, hsuits, hrelates⟩ := heach item (by simp) product hitem
    obtain ⟨images, hallSuit, hallRelate⟩ := ih fun later hlater => heach later (by simp [hlater])
    exact ⟨image :: images, .cons hsuits hallSuit, .cons hrelates hallRelate⟩

end Pointwise

/-- A document whose text makes sense to its end. -/
inductive Json.Document.Sound : Document → Prop
  | null : Sound .null
  | bool (flag : Bool) : Sound (.bool flag)
  | number (number : Number) : Sound (.number number)
  | string (text : String) : Sound (.string text)
  | list {items : List Document} (hitems : ∀ item ∈ items, Sound item) : Sound (.list items none)
  | object {members : List (Except Fault String × Document)}
      (hnames : ∀ member ∈ members, ∃ name, member.1 = .ok name)
      (hmembers : ∀ member ∈ members, Sound member.2) : Sound (.object members none)

/-- A document whose text makes sense to its end, with no two members of an object named alike. -/
inductive Json.Document.Intact : Document → Prop
  | null : Intact .null
  | bool (flag : Bool) : Intact (.bool flag)
  | number (number : Number) : Intact (.number number)
  | string (text : String) : Intact (.string text)
  | list {items : List Document} (hitems : ∀ item ∈ items, Intact item) : Intact (.list items none)
  | object {members : List (Except Fault String × Document)} (names : List String)
      (hnames : members.map Prod.fst = names.map .ok) (honce : names.Nodup)
      (hmembers : ∀ member ∈ members, Intact member.2) : Intact (.object members none)

/-- The members are the fields, in the same order, with the values that stand there. -/
def Tabulates (members : List (Except Fault String × Document)) (fields : Fields Value) : Prop :=
  List.Forall₂ (fun member field => member.1 = .ok field.1 ∧ member.2.value? = .ok field.2)
    members fields

/-- An object, read as keyword arguments. -/
def TellsFields (document : Document) (fields : Fields Value) : Prop :=
  ∃ members, document = .object members none ∧ Tabulates members fields

/-- A configuration sequence: an object of calls, or a list of sequences. -/
inductive TellsSequence : Document → ConfigSequence → Prop
  | steps {document : Document} {fields : Fields Value} (hfields : TellsFields document fields) :
      TellsSequence document (.steps (Call.ofMapping fields))
  | nested {items : List Document} {sequences : List ConfigSequence}
      (hitems : List.Forall₂ TellsSequence items sequences) :
      TellsSequence (.list items none) (.nested sequences)

/-- Documents hold values one by one. -/
theorem values?_eq_ok_iff {items : List Document} {values : List Value} :
    Document.values? items = .ok values ↔
      List.Forall₂ (fun item value => item.value? = .ok value) items values := by
  induction items generalizing values with
  | nil => cases values <;> simp [Document.values?]
  | cons item rest ih =>
    simp only [Document.values?, except_bind_eq_ok_iff, ih, List.forall₂_cons_left_iff]
    constructor
    · rintro ⟨value, hvalue, later, hlater, hvalues⟩
      exact ⟨value, later, hvalue, hlater, (Except.ok.inj hvalues).symm⟩
    · rintro ⟨value, later, hvalue, hlater, rfl⟩
      exact ⟨value, hvalue, later, hlater, rfl⟩

/-- The entries of members are the fields that they tabulate. -/
theorem entries?_eq_ok_iff {members : List (Except Fault String × Document)}
    {entries : Fields Value} :
    Document.entries? members = .ok entries ↔ Tabulates members entries := by
  induction members generalizing entries with
  | nil => cases entries <;> simp [Document.entries?, Tabulates]
  | cons member rest ih =>
    obtain ⟨named, document⟩ := member
    simp only [Document.entries?, except_bind_eq_ok_iff, ih]
    constructor
    · rintro ⟨name, rfl, value, hvalue, more, hmore, hentries⟩
      obtain rfl := Except.ok.inj hentries
      exact .cons ⟨rfl, hvalue⟩ hmore
    · rintro (_ | ⟨⟨hname, hvalue⟩, hmore⟩)
      exact ⟨_, hname, _, hvalue, _, hmore, rfl⟩

/-- A document whose text makes sense holds a value. -/
theorem Json.Document.Sound.exists_value {document : Document} (hsound : document.Sound) :
    ∃ value, document.value? = .ok value := by
  induction hsound with
  | null | bool | number | string => exact ⟨_, by rw [Document.value?]⟩
  | @list items hitems ih =>
    obtain ⟨values, hvalues⟩ := exists_forall₂ ih
    rw [← values?_eq_ok_iff] at hvalues
    exact ⟨.list values, by rw [Document.value?, hvalues]; rfl⟩
  | @object members hnames hmembers ih =>
    have heach : ∀ member ∈ members, ∃ field : String × Value,
        member.1 = .ok field.1 ∧ member.2.value? = .ok field.2 := by
      intro member hmember
      obtain ⟨name, hname⟩ := hnames member hmember
      obtain ⟨value, hvalue⟩ := ih member hmember
      exact ⟨(name, value), hname, hvalue⟩
    obtain ⟨entries, hentries⟩ := exists_forall₂ heach
    have hread := entries?_eq_ok_iff.mpr hentries
    exact ⟨.mapping (Table.ofPairs entries), by rw [Document.value?, hread]; rfl⟩

/-- Members tabulate fields under their own names. -/
theorem Tabulates.names {members : List (Except Fault String × Document)} {fields : Fields Value}
    (htabulates : Tabulates members fields) : members.map Prod.fst = fields.keys.map .ok := by
  induction htabulates with
  | nil => rfl
  | cons hfield _ ih => simp [hfield.1, ih]

namespace Json.Document.Intact

/-- The fields of an intact object have each name once. -/
theorem ofPairs_eq_self {members : List (Except Fault String × Document)}
    (hintact : Intact (.object members none)) {entries : Fields Value}
    (htabulates : Tabulates members entries) : Table.ofPairs entries = entries := by
  cases hintact with
  | object names hnames honce hmembers =>
    have hkeys : entries.keys = names := by
      have hboth := htabulates.names.symm.trans hnames
      exact List.map_injective_iff.mpr (fun _ _ => Except.ok.inj) hboth
    exact Table.ofPairs_eq_self (by rwa [Table.Distinct, hkeys])

/-- Arguments are told member by member, since no name is repeated. -/
theorem fields?_eq_ok_iff {document : Document} (hintact : document.Intact)
    (hnull : document ≠ .null) {fields : Fields Value} :
    document.fields? = .ok fields ↔ TellsFields document fields := by
  cases hintact with
  | null => exact absurd rfl hnull
  | bool | number | string | list => simp [fields?, TellsFields]
  | @object members names hnames honce hmembers =>
    have hself : ∀ entries, Tabulates members entries → Table.ofPairs entries = entries :=
      fun _ => (Intact.object names hnames honce hmembers).ofPairs_eq_self
    simp only [fields?, liftFault_eq_ok_iff, except_bind_eq_ok_iff, closed, entries?_eq_ok_iff,
      TellsFields, Document.object.injEq, and_true, exists_eq_left']
    constructor
    · rintro ⟨entries, htabulates, -, -, hfields⟩
      rw [hself entries htabulates] at hfields
      exact Except.ok.inj hfields ▸ htabulates
    · intro htabulates
      refine ⟨fields, htabulates, (), trivial, ?_⟩
      rw [hself fields htabulates]
      rfl

private theorem value?_object_eq_ok_iff {members : List (Except Fault String × Document)}
    (hintact : Intact (.object members none)) {value : Value} :
    (Document.object members none).value? = .ok value ↔
      ∃ fields, Tabulates members fields ∧ value = .mapping fields := by
  simp only [value?, except_bind_eq_ok_iff, closed, entries?_eq_ok_iff]
  constructor
  · rintro ⟨entries, htabulates, -, -, hvalue⟩
    rw [hintact.ofPairs_eq_self htabulates] at hvalue
    exact ⟨entries, htabulates, (Except.ok.inj hvalue).symm⟩
  · rintro ⟨fields, htabulates, rfl⟩
    refine ⟨fields, htabulates, (), trivial, ?_⟩
    rw [hintact.ofPairs_eq_self htabulates]
    rfl

private theorem sound {document : Document} (hintact : document.Intact) : document.Sound := by
  induction hintact with
  | null => exact .null
  | bool flag => exact .bool flag
  | number number => exact .number number
  | string text => exact .string text
  | list _ ih => exact .list ih
  | @object members names hnames _ _ ih =>
    refine .object (fun member hmember => ?_) ih
    have hname : member.1 ∈ names.map .ok := hnames ▸ List.mem_map_of_mem hmember
    obtain ⟨name, -, hname⟩ := List.mem_map.mp hname
    exact ⟨name, hname.symm⟩

private theorem exists_value {document : Document} (hintact : document.Intact) :
    ∃ value, document.value? = .ok value :=
  hintact.sound.exists_value

/-- The members of an object tell arguments, whatever stands there. -/
theorem exists_fields {members : List (Except Fault String × Document)}
    (hintact : Intact (.object members none)) :
    ∃ fields, TellsFields (.object members none) fields := by
  obtain ⟨value, hvalue⟩ := hintact.exists_value
  obtain ⟨fields, hfields, -⟩ := hintact.value?_object_eq_ok_iff.mp hvalue
  exact ⟨fields, members, rfl, hfields⟩

end Json.Document.Intact

/-- The document holds a value, and the value declares the sequence. -/
def DeclaresSequence (document : Document) (sequence : ConfigSequence) : Prop :=
  ∃ value, document.value? = .ok value ∧ ConfigSequence.ofValue? value = .ok sequence

/-- A document is decoded as the sequence that it declares. -/
theorem decodeSequence_eq_ok_iff_declares {document : Document} {sequence : ConfigSequence} :
    decodeSequence document = .ok sequence ↔ DeclaresSequence document sequence := by
  simp only [decodeSequence, DeclaresSequence, except_bind_eq_ok_iff, liftFault_eq_ok_iff]
  refine exists_congr fun value => and_congr_right fun _ => ?_
  cases ConfigSequence.ofValue? value <;>
    simp [throw, throwThe, MonadExceptOf.throw, pure, Except.pure]

private theorem ofValues?_eq_ok_iff {values : List Value} {sequences : List ConfigSequence} :
    ConfigSequence.ofValues? values = .ok sequences ↔
      List.Forall₂ (fun value sequence => ConfigSequence.ofValue? value = .ok sequence)
        values sequences := by
  induction values generalizing sequences with
  | nil => cases sequences <;> simp [ConfigSequence.ofValues?]
  | cons value rest ih =>
    simp only [ConfigSequence.ofValues?, except_bind_eq_ok_iff, ih, List.forall₂_cons_left_iff]
    constructor
    · rintro ⟨sequence, hsequence, later, hlater, hsequences⟩
      exact ⟨sequence, later, hsequence, hlater, (Except.ok.inj hsequences).symm⟩
    · rintro ⟨sequence, later, hsequence, hlater, rfl⟩
      exact ⟨sequence, hsequence, later, hlater, rfl⟩

private theorem declaresSequence_list_iff {items : List Document} {sequence : ConfigSequence} :
    DeclaresSequence (.list items none) sequence ↔
      ∃ sequences, List.Forall₂ DeclaresSequence items sequences ∧
        sequence = .nested sequences := by
  have hitems : ∀ sequences, List.Forall₂ DeclaresSequence items sequences ↔
      ∃ values, Document.values? items = .ok values ∧
        ConfigSequence.ofValues? values = .ok sequences := by
    intro sequences
    simp only [values?_eq_ok_iff, ofValues?_eq_ok_iff]
    exact forall₂_exists_and_iff
  simp only [hitems, DeclaresSequence, Document.value?, except_bind_eq_ok_iff, closed]
  constructor
  · rintro ⟨_, ⟨values, hvalues, -, -, ⟨⟩⟩, hsequence⟩
    rw [ConfigSequence.ofValue?, except_bind_eq_ok_iff] at hsequence
    obtain ⟨sequences, hsequences, hnested⟩ := hsequence
    exact ⟨sequences, ⟨values, hvalues, hsequences⟩, (Except.ok.inj hnested).symm⟩
  · rintro ⟨sequences, ⟨values, hvalues, hsequences⟩, rfl⟩
    refine ⟨.list values, ⟨values, hvalues, (), trivial, rfl⟩, ?_⟩
    rw [ConfigSequence.ofValue?, hsequences]
    rfl

/-- A configuration sequence is decoded as its form tells. -/
theorem Json.Document.Intact.decodeSequence_eq_ok_iff {document : Document}
    (hintact : document.Intact) {sequence : ConfigSequence} :
    decodeSequence document = .ok sequence ↔ TellsSequence document sequence := by
  rw [decodeSequence_eq_ok_iff_declares]
  induction hintact generalizing sequence with
  | null | bool | string =>
    simp only [DeclaresSequence, Document.value?, Except.ok.injEq, exists_eq_left',
      ConfigSequence.ofValue?, reduceCtorEq, false_iff]
    rintro (⟨⟨_, ⟨⟩, -⟩⟩)
  | number number =>
    simp only [DeclaresSequence, Document.value?, Except.ok.injEq, exists_eq_left']
    constructor
    · intro hsequence
      cases number with
      | natural number =>
        simp only [Number.value] at hsequence
        split at hsequence <;> cases hsequence
      | negative | real => cases hsequence
    · rintro (⟨⟨_, ⟨⟩, -⟩⟩)
  | @list items hitems ih =>
    have hforall : ∀ sequences, List.Forall₂ DeclaresSequence items sequences ↔
        List.Forall₂ TellsSequence items sequences :=
      fun _ => forall₂_congr_of_mem fun item hitem _ => ih item hitem
    rw [declaresSequence_list_iff]
    constructor
    · rintro ⟨sequences, hsequences, rfl⟩
      exact .nested ((hforall sequences).mp hsequences)
    · rintro (⟨⟨_, ⟨⟩, -⟩⟩ | hsequences)
      exact ⟨_, (hforall _).mpr hsequences, rfl⟩
  | @object members names hnames honce hmembers ih =>
    have hvalue : ∀ value, (Document.object members none).value? = .ok value ↔
        ∃ fields, Tabulates members fields ∧ value = .mapping fields :=
      fun _ => (Intact.object names hnames honce hmembers).value?_object_eq_ok_iff
    simp only [DeclaresSequence, hvalue]
    constructor
    · rintro ⟨value, ⟨fields, hfields, rfl⟩, hsequence⟩
      obtain rfl := Except.ok.inj hsequence
      exact .steps ⟨members, rfl, hfields⟩
    · rintro (⟨fields⟩)
      obtain ⟨_, heq, htabulates⟩ := fields
      cases heq
      exact ⟨_, ⟨_, htabulates, rfl⟩, rfl⟩

end WidgetTree
