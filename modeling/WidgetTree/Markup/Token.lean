import WidgetTree.Markup.Literal

namespace WidgetTree.Markup

/-- A pair of brackets. -/
inductive Delimiter
  | paren
  | bracket
  | brace
deriving DecidableEq

namespace Delimiter

def opening : Delimiter → String
  | paren => "("
  | bracket => "["
  | brace => "\x7b"

def closing : Delimiter → String
  | paren => ")"
  | bracket => "]"
  | brace => "\x7d"

end Delimiter

/-- A unit of markup. Brackets pair up, so what stands between a pair is one token with tokens of
its own. -/
inductive Token
  /-- An identifier or a keyword, with the sign in front that makes it no keyword. -/
  | word (name : String)
  | literal (literal : Literal)
  /-- One punctuation character, and whether the next one follows without a space. -/
  | mark (c : Char) (joint : Bool)
  /-- What stands between a pair of brackets. -/
  | group (delimiter : Delimiter) (content : List Token)

instance : Inhabited Token := ⟨.word ""⟩

namespace Token

mutual

/-- The texts of a token: its own, or those of its brackets around those between them. -/
def texts : Token → List String
  | word name => [name]
  | literal l => [l.source]
  | mark c _ => [c.toString]
  | group delimiter content => delimiter.opening :: textsOf content ++ [delimiter.closing]

/-- The texts of several tokens. -/
def textsOf : List Token → List String
  | [] => []
  | token :: rest => texts token ++ textsOf rest

end

mutual

/-- The number of tokens in a token. -/
def size : Token → Nat
  | group _ content => sizeOfAll content + 1
  | _ => 1

/-- The number of tokens in several tokens. -/
def sizeOfAll : List Token → Nat
  | [] => 0
  | token :: rest => size token + sizeOfAll rest

end

end Token

/-- Words that name nothing. -/
def reservedWords : List String :=
  [ "_", "abstract", "as", "async", "await", "become", "box", "break", "const", "continue", "crate",
    "do", "dyn", "else", "enum", "extern", "false", "final", "fn", "for", "if", "impl", "in", "let",
    "loop", "macro", "match", "mod", "move", "mut", "override", "priv", "pub", "ref", "return",
    "Self", "self", "static", "struct", "super", "trait", "true", "try", "type", "typeof", "unsafe",
    "unsized", "use", "virtual", "where", "while", "yield" ]

/-- Whether a word may name something. -/
def isName (word : String) : Bool := !reservedWords.contains word

end WidgetTree.Markup
