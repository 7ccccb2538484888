import WidgetTree.Markup.Blank
import WidgetTree.Markup.Token
import WidgetTree.Text.Quoted

namespace WidgetTree.Markup

open Text

/-- What a text is cut into. Lexemes are tokens and single brackets; the brackets pair up
afterwards. -/
inductive Lexeme
  | opening (delimiter : Delimiter)
  | closing (delimiter : Delimiter)
  | token (token : Token)

namespace Lexeme

/-- Whether a character is punctuation. -/
def isMark (c : Char) : Bool := "~!@#$%^&*-=+|;:,<.>/?'".toList.contains c

/-- Whether punctuation stands at the front of a text. The beginning of a comment is none. -/
def atMark : List Char → Bool
  | '/' :: '/' :: _ => false
  | '/' :: '*' :: _ => false
  | c :: _ => isMark c
  | [] => false

/-- The name that the sign for names in front of a word makes, unless the word has a meaning that
no sign takes away. -/
def signedName? (name : List Char) : Option Token :=
  let name := String.ofList name
  if name = "" || ["_", "super", "self", "Self", "crate"].contains name then none
  else some (.word ("r#" ++ name))

/-- The word at the front of a text, and the text behind it. -/
def word? (cs : List Char) : Option (Token × List Char) :=
  match cs with
  | 'r' :: '#' :: rest => (signedName? (splitWord rest).1).map (·, (splitWord rest).2)
  | _ =>
    match splitWord cs with
    | ([], _) => none
    | (name, rest) => some (.word (String.ofList name), rest)

/-- Beginnings of literals, which are no words even if the literal is not sound. -/
def literalBeginnings : List (List Char) :=
  ["r\"", "r#\"", "r##", "b\"", "b\x27", "br\"", "br#", "c\"", "cr\"", "cr#"].map String.toList

/-- The word at the front of a text that does not begin like a literal. -/
def plainWord? (cs : List Char) : Option (Token × List Char) :=
  if literalBeginnings.any (·.isPrefixOf cs) then none else word? cs

/-- Whether an apostrophe in front of this text makes a name of the word there: no character in
apostrophes is begun. -/
def apostropheNames (cs : List Char) : Bool :=
  match word? cs with
  | none => false
  | some (_, '\x27' :: _) => false
  | some (_, '#' :: _) => ['r', '#'].isPrefixOf cs
  | some _ => true

/-- The punctuation at the front of a text, and the text behind it. -/
def mark? (cs : List Char) : Option (Token × List Char) :=
  match cs with
  | '\x27' :: rest => if apostropheNames rest then some (.mark '\x27' true, rest) else none
  | c :: rest => if atMark cs then some (.mark c (atMark rest), rest) else none
  | [] => none

/-- A text in brackets that stands for a token that could not be read. -/
def unreadable : List Char := "(/*ERROR*/)".toList

/-- The token at the front of a text that is no bracket, and the text behind it. -/
def token? (cs : List Char) : Option (Token × List Char) :=
  match literal? cs with
  | some (l, rest) => some (.literal l, rest)
  | none => (mark? cs).or (plainWord? cs)

/-- The bracket at the front of a text, and the text behind it. -/
def bracket? (cs : List Char) : Option (Lexeme × List Char) :=
  if unreadable.isPrefixOf cs then none
  else match cs with
    | '(' :: rest => some (opening .paren, rest)
    | '[' :: rest => some (opening .bracket, rest)
    | '\x7b' :: rest => some (opening .brace, rest)
    | ')' :: rest => some (closing .paren, rest)
    | ']' :: rest => some (closing .bracket, rest)
    | '\x7d' :: rest => some (closing .brace, rest)
    | _ => none

/-- A text as a literal that spells it. Before an octal digit the null character is written in
full. -/
def spelled : List Char → List Char
  | [] => []
  | '\x00' :: c :: rest =>
    if '0' ≤ c ∧ c ≤ '7' then "\\x00".toList ++ spelled (c :: rest)
    else escape '\x00' ++ spelled (c :: rest)
  | c :: rest => escape c ++ spelled rest

/-- A remark as the attribute that it is short for. -/
def ofRemark (remark : Remark) : List Lexeme :=
  let source := String.ofList ('"' :: spelled remark.text ++ ['"'])
  let sign := if remark.enclosing then [token (.mark '!' false)] else []
  token (.mark '#' false) :: sign ++
    [ opening .bracket, token (.word "doc"), token (.mark '=' false),
      token (.literal ⟨source, .text (String.ofList remark.text)⟩), closing .bracket ]

/-- The lexemes at the front of a text, and the text behind them. -/
def split? (cs : List Char) : Option (List Lexeme × List Char) :=
  match splitRemark? cs with
  | some (remark, rest) => some (ofRemark remark, rest)
  | none =>
    match bracket? cs with
    | some (bracket, rest) => some ([bracket], rest)
    | none =>
      if unreadable.isPrefixOf cs then
        some ([token (.literal ⟨String.ofList unreadable, .other⟩)], cs.drop unreadable.length)
      else (token? cs).map fun (read, rest) => ([token read], rest)

/-- The lexemes of a text. Each step takes at least one character, so one step more than the text is
long are enough. -/
def ofChars? : Nat → List Char → Option (List Lexeme)
  | 0, _ => none
  | steps + 1, cs =>
    match skipBlanks cs.length cs with
    | [] => some []
    | cs => do
      let (lexemes, rest) ← split? cs
      let behind ← ofChars? steps rest
      return lexemes ++ behind

end Lexeme

/-- A pair of brackets that is still open: the tokens in front of it, the last one first. -/
structure OpenGroup where
  delimiter : Delimiter
  before : List Token

/-- Pairs up the brackets, given those that are open, the innermost first, and the tokens read
inside them, the last one first. -/
def pairBrackets : List OpenGroup → List Token → List Lexeme → Option (List Token)
  | [], read, [] => some read.reverse
  | _ :: _, _, [] => none
  | outer, read, .token token :: rest => pairBrackets outer (token :: read) rest
  | outer, read, .opening delimiter :: rest => pairBrackets (⟨delimiter, read⟩ :: outer) [] rest
  | [], _, .closing _ :: _ => none
  | innermost :: outer, read, .closing delimiter :: rest =>
    if innermost.delimiter = delimiter then
      pairBrackets outer (.group delimiter read.reverse :: innermost.before) rest
    else none

/-- The text behind a byte order mark, if it begins with one. -/
def behindOrderMark : List Char → List Char
  | '\uFEFF' :: rest => rest
  | cs => cs

/-- The tokens of a text, if it has nothing but tokens and its brackets pair up. -/
def tokens? (text : String) : Option (List Token) :=
  let cs := behindOrderMark text.toList
  (Lexeme.ofChars? (cs.length + 1) cs).bind (pairBrackets [] [])

end WidgetTree.Markup
