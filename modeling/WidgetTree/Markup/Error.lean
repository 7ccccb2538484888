import WidgetTree.Text.Quoted

namespace WidgetTree.Markup

open Text

/-- What is wrong with a text of markup. -/
inductive MarkupError
  /-- The text is not made of tokens. -/
  | untokenizable
  /-- A token stands where another one is due, or a value is not sound. -/
  | malformed
  /-- There is no element. -/
  | empty
  /-- Something stands behind the element. -/
  | trailing
  /-- An element ends with another tag than it begins with. -/
  | mismatchedTag (opened closed : String)
  /-- Something other than an element stands inside an element, or nothing does. -/
  | childExpected (atEnd : Bool)
  /-- An element has no id. -/
  | missingId (tag : String)
  /-- An attribute has a qualifier that means nothing. -/
  | unknownQualifier (qualifier : String)
  /-- An attribute takes a text and has another value. -/
  | textExpected (name : String)
deriving DecidableEq

namespace MarkupError

/-- The words for what is wrong. Not being made of tokens and being malformed have none. -/
def message? : MarkupError → Option String
  | untokenizable => none
  | malformed => none
  | empty => some "node! macro requires a root element"
  | trailing => some "node! macro takes exactly one root element"
  | mismatchedTag opened closed =>
    some ("mismatched closing tag: expected " ++ backquote ("</" ++ opened ++ ">") ++ ", found " ++
      backquote ("</" ++ closed ++ ">"))
  | childExpected atEnd =>
    some ((if atEnd then "unexpected end of input, " else "") ++
      "expected `<` to start a child element or `</` to close the parent")
  | missingId tag => some (backquote ("<" ++ tag ++ ">") ++ " is missing an `id` attribute")
  | unknownQualifier qualifier =>
    some ("unknown attribute namespace " ++ backquote qualifier ++ " (expected `attach` or `set`)")
  | textExpected name => some (backquote name ++ " takes a string literal")

end MarkupError

end WidgetTree.Markup
