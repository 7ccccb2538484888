import WidgetTree.Markup.Recipe
import WidgetTree.Proofs.Node.Draft

namespace WidgetTree.Markup

/-- A token without a word on the spaces behind it. -/
def Token.unspaced : Token → Token
  | mark c _ => mark c false
  | token => token

/-- Whether a minus sign may stand in front. -/
def Literal.isNumber (l : Literal) : Bool :=
  match l.value with
  | .integer .. | .decimal .. => true
  | _ => false

/-- Things of one kind, one behind the other, as many as there are. -/
inductive Many {α : Type} (derives : α → List Token → List Token → Prop) :
    List α → List Token → List Token → Prop
  | none (tokens : List Token) : Many derives [] tokens tokens
  | more {first : α} {others : List α} {front middle behind : List Token}
      (head : derives first front middle) (tail : Many derives others middle behind) :
      Many derives (first :: others) front behind

/-- A value is a literal, which may be a number behind a minus sign or one of two words, or an
expression in braces. -/
inductive AttributeValue.Derives : AttributeValue → List Token → List Token → Prop
  | literal (l : Literal) (behind : List Token) :
      Derives (.literal l) (.literal l :: behind) behind
  | negative {l : Literal} (hnumber : l.isNumber = true) (joint : Bool) (behind : List Token) :
      Derives (.negative l) (.mark '-' joint :: .literal l :: behind) behind
  | yes (behind : List Token) : Derives (.flag true) (.word "true" :: behind) behind
  | no (behind : List Token) : Derives (.flag false) (.word "false" :: behind) behind
  | expression {content : List Token} (hone : Host.isExpression content = true)
      (behind : List Token) :
      Derives (.expression content) (.group .brace content :: behind) behind

/-- An attribute is a name, an equals sign and a value; a qualifier and a colon may stand in front.
Any word may be a name or a qualifier. -/
inductive Attribute.Derives : Attribute → List Token → List Token → Prop
  | plain {name : String} {value : AttributeValue} {front behind : List Token} (equals : Bool)
      (hvalue : value.Derives front behind) :
      Derives ⟨none, name, value⟩ (.word name :: .mark '=' equals :: front) behind
  | qualified {qualifier name : String} {value : AttributeValue} {front behind : List Token}
      (colon equals : Bool) (hvalue : value.Derives front behind) :
      Derives ⟨some qualifier, name, value⟩
        (.word qualifier :: .mark ':' colon :: .word name :: .mark '=' equals :: front) behind

/-- An element is an opening tag with attributes, that may close itself, or else elements inside it
and a closing tag of the same name, which no keyword is. A derivation takes what it derives off the
front of a list of tokens and leaves the tokens behind it. -/
inductive Element.Derives : Element → List Token → List Token → Prop
  | closed {tag : String} {attributes : List Attribute} {front behind : List Token}
      (hname : isName tag = true) (opening slash closing : Bool)
      (hattributes : Many Attribute.Derives attributes front
        (.mark '/' slash :: .mark '>' closing :: behind)) :
      Derives (.element tag attributes [] true) (.mark '<' opening :: .word tag :: front) behind
  | around {tag : String} {attributes : List Attribute} {children : List Element}
      {front inside behind : List Token} (hname : isName tag = true)
      (opening closing before slash after : Bool)
      (hattributes : Many Attribute.Derives attributes front (.mark '>' closing :: inside))
      (hchildren : Many Derives children inside
        (.mark '<' before :: .mark '/' slash :: .word tag :: .mark '>' after :: behind)) :
      Derives (.element tag attributes children false)
        (.mark '<' opening :: .word tag :: front) behind

/-- The tokens that a value is written with. -/
def AttributeValue.written : AttributeValue → List Token
  | expression content => [.group .brace content]
  | value => value.tokens

/-- The tokens that an attribute is written with. -/
def Attribute.written (a : Attribute) : List Token :=
  let qualifier := match a.qualifier with
    | none => []
    | some qualifier => [.word qualifier, .mark ':' false]
  qualifier ++ .word a.name :: .mark '=' false :: a.value.written

namespace Element

mutual

/-- The tokens that an element is written with. -/
def written : Element → List Token
  | element tag attributes children closesItself =>
    .mark '<' false :: .word tag :: attributes.flatMap Attribute.written ++
      if closesItself then [.mark '/' false, .mark '>' false]
      else .mark '>' false :: writtenAll children ++
        [.mark '<' false, .mark '/' false, .word tag, .mark '>' false]

/-- The tokens that several elements are written with. -/
def writtenAll : List Element → List Token
  | [] => []
  | first :: rest => written first ++ writtenAll rest

end

end Element

section Written

variable {front behind : List Token}

private theorem AttributeValue.Derives.eq_written {value : AttributeValue}
    (hderives : value.Derives front behind) :
    front.map Token.unspaced = value.written ++ behind.map Token.unspaced := by
  cases hderives <;> rfl

/-- What an attribute is derived from is what it is written with. -/
theorem Attribute.Derives.eq_written {a : Attribute} (hderives : a.Derives front behind) :
    front.map Token.unspaced = a.written ++ behind.map Token.unspaced := by
  cases hderives with
  | plain equals hvalue =>
    simp [written, Token.unspaced, hvalue.eq_written]
  | qualified colon equals hvalue =>
    simp [written, Token.unspaced, hvalue.eq_written]

private theorem Many.eq_written {attributes : List Attribute}
    (hmany : Many Attribute.Derives attributes front behind) :
    front.map Token.unspaced =
      attributes.flatMap Attribute.written ++ behind.map Token.unspaced := by
  induction hmany with
  | none tokens => rfl
  | more head tail ih => rw [head.eq_written, ih, List.flatMap_cons, List.append_assoc]

namespace Element

mutual

/-- What an element is derived from is what it is written with. -/
theorem Derives.eq_written : ∀ {e : Element} {front behind : List Token},
    e.Derives front behind →
      front.map Token.unspaced = e.written ++ behind.map Token.unspaced
  | .element tag attributes children closesItself, front, behind, hderives => by
    cases hderives with
    | closed hname opening slash closing hattributes =>
      simp [written, Token.unspaced, hattributes.eq_written]
    | around hname opening closing before slash after hattributes hchildren =>
      simp [written, Token.unspaced, hattributes.eq_written, eq_writtenAll hchildren]

private theorem eq_writtenAll : ∀ {list : List Element} {front behind : List Token},
    Many Element.Derives list front behind →
      front.map Token.unspaced = writtenAll list ++ behind.map Token.unspaced
  | [], front, behind, hmany => by
    cases hmany
    rfl
  | first :: rest, front, behind, hmany => by
    cases hmany with
    | more head tail => rw [head.eq_written, eq_writtenAll tail, writtenAll, List.append_assoc]

end

end Element

end Written

end WidgetTree.Markup
