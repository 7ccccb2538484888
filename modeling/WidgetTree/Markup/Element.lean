import WidgetTree.Markup.Error
import WidgetTree.Markup.Host.Grammar

namespace WidgetTree.Markup

open Text

/-- The value of an attribute. -/
inductive AttributeValue
  | literal (literal : Literal)
  /-- A number with a minus sign in front. -/
  | negative (literal : Literal)
  | flag (value : Bool)
  /-- The tokens between the braces around an expression. -/
  | expression (content : List Token)

namespace AttributeValue

/-- Whether the value is written as an expression in braces. -/
def isExpression : AttributeValue → Bool
  | expression _ => true
  | _ => false

/-- The text that the value is, if it is a literal text without braces around it. -/
def text? : AttributeValue → Option String
  | literal ⟨_, .text content⟩ => some content
  | _ => none

/-- Whether nothing stands between the braces but one expression, if there are braces. -/
def isSound : AttributeValue → Bool
  | expression content => Host.isExpression content
  | _ => true

/-- The tokens of the value, without braces around it, and an expression in its plainest form. -/
def tokens : AttributeValue → List Token
  | literal l => [.literal l]
  | negative l => [.mark '-' false, .literal l]
  | flag true => [.word "true"]
  | flag false => [.word "false"]
  | expression content => Host.plainForm content

end AttributeValue

/-- An attribute of an element. -/
structure Attribute where
  /-- What the attribute is set on, if not the element itself. -/
  qualifier : Option String
  name : String
  value : AttributeValue

/-- An element with those inside it. It has a tag and attributes in order; one without elements
inside may close itself. -/
inductive Element
  | element (tag : String) (attributes : List Attribute) (children : List Element)
    (closesItself : Bool)

namespace Element

def tag : Element → String
  | element tag _ _ _ => tag

def attributes : Element → List Attribute
  | element _ attributes _ _ => attributes

def children : Element → List Element
  | element _ _ children _ => children

def closesItself : Element → Bool
  | element _ _ _ closesItself => closesItself

mutual

/-- Whether every value in braces, also inside, is one expression. -/
def isSound : Element → Bool
  | element _ attributes children _ => attributes.all (·.value.isSound) && areSound children

/-- Whether every value in braces in several elements is one expression. -/
def areSound : List Element → Bool
  | [] => true
  | first :: rest => isSound first && areSound rest

end

end Element

/-- An attribute with its value left out. -/
def Attribute.listing (a : Attribute) : String :=
  let qualifier := match a.qualifier with
    | none => "None"
    | some qualifier => "Some(" ++ quote qualifier ++ ")"
  "Attribute \x7b namespace: " ++ qualifier ++ ", name: " ++ quote a.name ++ ", .. \x7d"

namespace Element

mutual

/-- An element with all its parts but the values of attributes. -/
def listing : Element → String
  | element tag attributes children closesItself =>
    "Element \x7b tag: " ++ quote tag ++
      ", attrs: [" ++ ", ".intercalate (attributes.map Attribute.listing) ++
      "], children: [" ++ ", ".intercalate (listings children) ++
      "], self_closing: " ++ (if closesItself then "true" else "false") ++ " \x7d"

/-- The listings of several elements. -/
def listings : List Element → List String
  | [] => []
  | first :: rest => listing first :: listings rest

end

end Element

end WidgetTree.Markup
