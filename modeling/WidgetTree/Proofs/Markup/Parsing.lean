import WidgetTree.Proofs.Markup.Grammar

namespace WidgetTree.Markup

variable {front behind : List Token}

private theorem Host.beginsExpression_of_isExpression {content : List Token}
    (hone : isExpression content = true) : beginsExpression content = true := by
  obtain ⟨cursor, hcursor, -⟩ := (Option.any_eq_true _ _).mp hone
  rw [beginsExpression, hcursor]
  rfl

private theorem AttributeValue.derives_iff {value : AttributeValue} :
    value.Derives front behind ↔
      readValue front = .ok (value, behind) ∧ value.isSound = true := by
  constructor
  · intro hderives
    cases hderives with
    | literal | yes | no => exact ⟨rfl, rfl⟩
    | @negative l hnumber joint behind =>
      obtain ⟨source, meaning⟩ := l
      cases meaning <;> first | exact ⟨rfl, rfl⟩ | cases hnumber
    | expression hone behind =>
      exact ⟨by rw [readValue, if_pos (Host.beginsExpression_of_isExpression hone)], hone⟩
  · rintro ⟨hread, hsound⟩
    unfold readValue at hread
    split at hread
    · split at hread
      · cases hread
        exact .expression hsound _
      · cases hread
    · cases hread
      exact .literal ..
    · cases hread
      exact .yes _
    · cases hread
      exact .no _
    · cases hread
      exact .negative rfl ..
    · cases hread
      exact .negative rfl ..
    · cases hread

private theorem Attribute.derives_iff {a : Attribute} :
    a.Derives front behind ↔
      readAttribute front = .ok (a, behind) ∧ a.value.isSound = true := by
  constructor
  · intro hderives
    cases hderives with
    | plain equals hvalue =>
      obtain ⟨hread, hsound⟩ := AttributeValue.derives_iff.mp hvalue
      exact ⟨by simp [readAttribute, hread, bind, Except.bind, pure, Except.pure], hsound⟩
    | qualified colon equals hvalue =>
      obtain ⟨hread, hsound⟩ := AttributeValue.derives_iff.mp hvalue
      exact ⟨by simp [readAttribute, hread, bind, Except.bind, pure, Except.pure], hsound⟩
  · rintro ⟨hread, hsound⟩
    unfold readAttribute at hread
    split at hread
    · obtain ⟨⟨value, rest⟩, hvalue, hresult⟩ := except_bind_eq_ok_iff.mp hread
      cases hresult
      exact .qualified _ _ (AttributeValue.derives_iff.mpr ⟨hvalue, hsound⟩)
    · obtain ⟨⟨value, rest⟩, hvalue, hresult⟩ := except_bind_eq_ok_iff.mp hread
      cases hresult
      exact .plain _ (AttributeValue.derives_iff.mpr ⟨hvalue, hsound⟩)
    · cases hread

private theorem Attribute.Derives.length_lt {a : Attribute} (hderives : a.Derives front behind) :
    behind.length < front.length := by
  have hlength := congrArg List.length hderives.eq_written
  simp only [written, List.length_map, List.length_append, List.length_cons] at hlength
  omega

private theorem Many.length_le {attributes : List Attribute}
    (hmany : Many Attribute.Derives attributes front behind) : behind.length ≤ front.length := by
  induction hmany with
  | none tokens => exact Nat.le_refl _
  | more head tail ih => exact Nat.le_trans ih (Nat.le_of_lt head.length_lt)

/-- An opening tag takes three tokens at least. -/
theorem Many.length_inside_lt {attributes : List Attribute} {inside : List Token} {tag : String}
    {opening closing : Bool} {steps : Nat}
    (hmany : Many Attribute.Derives attributes front (.mark '>' closing :: inside))
    (hsteps : (.mark '<' opening :: .word tag :: front : List Token).length ≤ steps + 1) :
    inside.length < steps := by
  have hle := hmany.length_le
  simp only [List.length_cons] at hle hsteps
  omega

/-- The end of an opening tag, that closes the element too or does not. -/
inductive TagEnds : Bool → List Token → List Token → Prop
  | closed (slash closing : Bool) (behind : List Token) :
      TagEnds true (.mark '/' slash :: .mark '>' closing :: behind) behind
  | around (closing : Bool) (behind : List Token) :
      TagEnds false (.mark '>' closing :: behind) behind

/-- With more steps than tokens, attributes are read as far as the end of the tag. -/
theorem readAttributes_iff {steps : Nat} {attributes : List Attribute} {closed : Bool}
    (hsteps : front.length < steps) :
    (∃ middle, Many Attribute.Derives attributes front middle ∧ TagEnds closed middle behind) ↔
      readAttributes steps front = .ok ((attributes, closed), behind) ∧
        attributes.all (·.value.isSound) = true := by
  induction steps generalizing front attributes with
  | zero => omega
  | succ steps ih =>
    constructor
    · rintro ⟨middle, hmany, hends⟩
      cases hmany with
      | none =>
        cases hends with
        | closed | around => exact ⟨by rw [readAttributes], rfl⟩
      | @more first others front between middle head tail =>
        have hlt := head.length_lt
        obtain ⟨hfirst, hsound⟩ := Attribute.derives_iff.mp head
        obtain ⟨hothers, hsounds⟩ := (ih (by omega)).mp ⟨middle, tail, hends⟩
        constructor
        · -- a tag does not end at the token that an attribute begins with
          cases head <;>
            simp [readAttributes, hfirst, hothers, bind, Except.bind, pure, Except.pure]
        · rw [List.all_cons, hsound, hsounds, Bool.and_self]
    · rintro ⟨hread, hsound⟩
      unfold readAttributes at hread
      split at hread
      · cases hread
        exact ⟨_, .none _, .closed ..⟩
      · cases hread
        exact ⟨_, .none _, .around ..⟩
      · obtain ⟨⟨first, between⟩, hfirst, hread⟩ := except_bind_eq_ok_iff.mp hread
        obtain ⟨⟨⟨others, closes⟩, rest⟩, hothers, hresult⟩ := except_bind_eq_ok_iff.mp hread
        cases hresult
        rw [List.all_cons, Bool.and_eq_true] at hsound
        have head := Attribute.derives_iff.mpr ⟨hfirst, hsound.1⟩
        have hlt := head.length_lt
        obtain ⟨middle, tail, hends⟩ := (ih (by omega)).mpr ⟨hothers, hsound.2⟩
        exact ⟨middle, .more head tail, hends⟩

namespace Element

private theorem Derives.length_lt {e : Element} (hderives : e.Derives front behind) :
    behind.length < front.length := by
  have hlength := congrArg List.length hderives.eq_written
  obtain ⟨tag, attributes, children, closesItself⟩ := e
  simp only [written, List.length_map, List.length_append, List.length_cons] at hlength
  omega

/-- Elements up to the closing tag of the element around them. -/
def DerivesInside (tag : String) (children : List Element) (front behind : List Token) : Prop :=
  ∃ before slash after, Many Element.Derives children front
    (.mark '<' before :: .mark '/' slash :: .word tag :: .mark '>' after :: behind)

end Element

private theorem readClosing_iff {tag : String} (hname : isName tag = true) :
    readClosing tag front = .ok behind ↔
      ∃ after, front = .word tag :: .mark '>' after :: behind := by
  constructor
  · intro hread
    unfold readClosing at hread
    split at hread
    · next name rest =>
      split at hread
      · cases hread
      · split at hread
        · cases hread
        · next hsame =>
          split at hread
          · next after rest =>
            cases hread
            exact ⟨after, by rw [not_not.mp hsame]⟩
          · cases hread
    · cases hread
  · rintro ⟨after, rfl⟩
    simp [readClosing, hname]

/-- With as many steps as tokens, elements are read where they are derived, and each expression in
them is one. -/
def ReadsElements (steps : Nat) : Prop :=
  ∀ (e : Element) (front behind : List Token), front.length ≤ steps →
    (e.Derives front behind ↔
      readElement steps front = .ok (e, behind) ∧ e.isSound = true)

/-- The same, with one step more, of the elements inside another one. -/
def ReadsChildren (steps : Nat) : Prop :=
  ∀ (tag : String) (children : List Element) (front behind : List Token), isName tag = true →
    front.length < steps →
    (Element.DerivesInside tag children front behind ↔
      readChildren steps tag front = .ok (children, behind) ∧
        Element.areSound children = true)

/-- What an element is read from: a tag that closes itself, or one with elements behind it. -/
theorem readElement_succ_eq_ok_iff {steps : Nat} {e : Element} :
    readElement (steps + 1) front = .ok (e, behind) ↔
      ∃ opening tag rest attributes, front = .mark '<' opening :: .word tag :: rest ∧
        isName tag = true ∧
        (readAttributes (rest.length + 1) rest = .ok ((attributes, true), behind) ∧
            e = .element tag attributes [] true ∨
          ∃ inside children,
            readAttributes (rest.length + 1) rest = .ok ((attributes, false), inside) ∧
            readChildren steps tag inside = .ok (children, behind) ∧
            e = .element tag attributes children false) := by
  constructor
  · intro hread
    unfold readElement at hread
    split at hread
    · cases hread
    · next later opening tag rest hlater =>
      cases hlater
      split at hread
      · next hname =>
        obtain ⟨⟨⟨attributes, closed⟩, inside⟩, hattributes, hread⟩ :=
          except_bind_eq_ok_iff.mp hread
        refine ⟨opening, tag, rest, attributes, rfl, hname, ?_⟩
        cases closed with
        | true =>
          cases hread
          exact .inl ⟨hattributes, rfl⟩
        | false =>
          obtain ⟨⟨children, left⟩, hchildren, hresult⟩ := except_bind_eq_ok_iff.mp hread
          cases hresult
          exact .inr ⟨inside, children, hattributes, hchildren, rfl⟩
      · cases hread
    · cases hread
  · rintro ⟨opening, tag, rest, attributes, rfl, hname, hrest⟩
    rcases hrest with ⟨hattributes, rfl⟩ | ⟨inside, children, hattributes, hchildren, rfl⟩
    · simp [readElement, hname, hattributes, bind, Except.bind, pure, Except.pure]
    · simp [readElement, hname, hattributes, hchildren, bind, Except.bind, pure, Except.pure]

private theorem readsElements_succ {steps : Nat} (hinside : ReadsChildren steps) :
    ReadsElements (steps + 1) := by
  intro e front behind hsteps
  rw [readElement_succ_eq_ok_iff]
  constructor
  · intro hderives
    cases hderives with
    | @closed tag attributes front behind hname opening slash closing hattributes =>
      obtain ⟨hread, hsound⟩ := (readAttributes_iff (Nat.lt_succ_self _)).mp
        ⟨_, hattributes, .closed slash closing behind⟩
      refine ⟨⟨opening, tag, front, attributes, rfl, hname, .inl ⟨hread, rfl⟩⟩, ?_⟩
      simp only [Element.isSound, hsound, Element.areSound, Bool.and_self]
    | @around tag attributes children front inside behind hname opening closing before slash after
        hattributes hchildren =>
      obtain ⟨hread, hsound⟩ := (readAttributes_iff (Nat.lt_succ_self _)).mp
        ⟨_, hattributes, .around closing inside⟩
      have hlt := hattributes.length_inside_lt hsteps
      obtain ⟨hall, hsounds⟩ := (hinside tag children inside behind hname hlt).mp
        ⟨before, slash, after, hchildren⟩
      refine ⟨⟨opening, tag, front, attributes, rfl, hname,
        .inr ⟨inside, children, hread, hall, rfl⟩⟩, ?_⟩
      simp only [Element.isSound, hsound, hsounds, Bool.and_self]
  · rintro ⟨⟨opening, tag, rest, attributes, rfl, hname, hrest⟩, hsound⟩
    rcases hrest with ⟨hread, rfl⟩ | ⟨inside, children, hread, hall, rfl⟩
    · simp only [Element.isSound, Bool.and_eq_true] at hsound
      obtain ⟨middle, hattributes, hends⟩ :=
        (readAttributes_iff (Nat.lt_succ_self _)).mpr ⟨hread, hsound.1⟩
      cases hends with
      | closed slash closing => exact .closed hname opening slash closing hattributes
    · simp only [Element.isSound, Bool.and_eq_true] at hsound
      obtain ⟨middle, hattributes, hends⟩ :=
        (readAttributes_iff (Nat.lt_succ_self _)).mpr ⟨hread, hsound.1⟩
      cases hends with
      | around closing =>
        have hlt := hattributes.length_inside_lt hsteps
        obtain ⟨before, slash, after, hchildren⟩ :=
          (hinside tag children inside behind hname hlt).mpr ⟨hall, hsound.2⟩
        exact .around hname opening closing before slash after hattributes hchildren

private theorem readsChildren_succ {steps : Nat} (helements : ReadsElements steps)
    (hinside : ReadsChildren steps) : ReadsChildren (steps + 1) := by
  intro tag children front behind hname hsteps
  constructor
  · rintro ⟨before, slash, after, hmany⟩
    cases hmany with
    | none =>
      have hclosing : readClosing tag (.word tag :: .mark '>' after :: behind) = .ok behind :=
        (readClosing_iff hname).mpr ⟨after, rfl⟩
      exact ⟨by simp [readChildren, hclosing, bind, Except.bind, pure, Except.pure], rfl⟩
    | @more first others front between middle head tail =>
      have hlt := head.length_lt
      obtain ⟨hfirst, hsound⟩ := (helements first front between (by omega)).mp head
      obtain ⟨hothers, hsounds⟩ := (hinside tag others between behind hname (by omega)).mp
        ⟨before, slash, after, tail⟩
      constructor
      · -- nor does the closing tag begin where an element does
        cases head <;>
          simp [readChildren, hfirst, hothers, bind, Except.bind, pure, Except.pure]
      · rw [Element.areSound, hsound, hsounds, Bool.and_self]
  · rintro ⟨hread, hsound⟩
    unfold readChildren at hread
    split at hread
    · obtain ⟨rest, hclosing, hresult⟩ := except_bind_eq_ok_iff.mp hread
      cases hresult
      obtain ⟨after, rfl⟩ := (readClosing_iff hname).mp hclosing
      exact ⟨_, _, after, .none _⟩
    · obtain ⟨⟨first, between⟩, hfirst, hread⟩ := except_bind_eq_ok_iff.mp hread
      obtain ⟨⟨others, rest⟩, hothers, hresult⟩ := except_bind_eq_ok_iff.mp hread
      cases hresult
      rw [Element.areSound, Bool.and_eq_true] at hsound
      have head := (helements first _ between (by omega)).mpr ⟨hfirst, hsound.1⟩
      have hlt := head.length_lt
      obtain ⟨before, slash, after, tail⟩ :=
        (hinside tag others between behind hname (by omega)).mpr ⟨hothers, hsound.2⟩
      exact ⟨before, slash, after, .more head tail⟩
    · cases hread

private theorem reads (steps : Nat) : ReadsElements steps ∧ ReadsChildren steps := by
  induction steps with
  | zero =>
    refine ⟨fun e front behind hsteps => ?_, fun _ _ _ _ _ hsteps => by omega⟩
    obtain rfl := List.length_eq_zero_iff.mp (Nat.le_zero.mp hsteps)
    constructor
    · intro hderives
      cases hderives
    · rintro ⟨hread, -⟩
      cases hread
  | succ steps ih => exact ⟨readsElements_succ ih.2, readsChildren_succ ih.1 ih.2⟩

/-- The elements that the tokens can be read as, with what is left behind them, are those that the
grammar derives off their front. -/
theorem Element.derives_iff {e : Element} :
    e.Derives front behind ↔ Element.atFront? front = .ok (e, behind) ∧ e.isSound = true :=
  (reads (front.length + 1)).1 e front behind (Nat.le_succ _)

/-- What is derived off the front of the tokens, and how far it goes, is determined by them. -/
theorem Element.Derives.unique {first second : Element} {otherwise : List Token}
    (hfirst : first.Derives front behind) (hsecond : second.Derives front otherwise) :
    first = second ∧ behind = otherwise := by
  have hread := (Element.derives_iff.mp hfirst).1
  rw [(Element.derives_iff.mp hsecond).1] at hread
  cases hread
  exact ⟨rfl, rfl⟩

private theorem Element.root?_eq_ok_iff {tokens : List Token} {e : Element} :
    Element.root? tokens = .ok e ↔ e.Derives tokens [] := by
  rw [Element.derives_iff]
  cases tokens with
  | nil =>
    constructor
    · intro hroot
      cases hroot
    · rintro ⟨hfront, -⟩
      cases hfront
  | cons token tokens =>
    rw [Element.root?, if_neg (by simp), except_bind_eq_ok_iff]
    constructor
    · rintro ⟨⟨first, behind⟩, hfront, halone⟩
      cases behind with
      | nil =>
        cases hsound : first.isSound with
        | true =>
          obtain rfl : first = e := by simpa [alone, hsound] using halone
          exact ⟨hfront, hsound⟩
        | false => simp [alone, hsound] at halone
      | cons => simp [alone] at halone
    · rintro ⟨hfront, hsound⟩
      exact ⟨(e, []), hfront, by simp [alone, hsound]⟩

/-- The reading of markup is its grammar. -/
structure FollowsGrammar (tokens : List Token) : Prop where
  /-- The tokens are read as an element just if they are derived as that element. -/
  accepts : ∀ e : Element, Element.root? tokens = .ok e ↔ e.Derives tokens []
  /-- There is one derivation at most, also of what stands in front of other tokens. -/
  unambiguous : ∀ (first second : Element) (behind otherwise : List Token),
    first.Derives tokens behind → second.Derives tokens otherwise →
      first = second ∧ behind = otherwise
  /-- The element that was read is written with the tokens that were there. -/
  written : ∀ e : Element, Element.root? tokens = .ok e →
    e.written = tokens.map Token.unspaced

/-- Whatever the tokens are, they are read by the grammar. -/
theorem followsGrammar (tokens : List Token) : FollowsGrammar tokens where
  accepts e := Element.root?_eq_ok_iff
  unambiguous first second behind otherwise hfirst hsecond := hfirst.unique hsecond
  written e hroot := by
    have hwritten := (Element.root?_eq_ok_iff.mp hroot).eq_written
    rw [hwritten, List.map_nil, List.append_nil]

end WidgetTree.Markup
