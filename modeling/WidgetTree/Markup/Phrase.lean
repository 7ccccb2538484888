import WidgetTree.Markup.Token

namespace WidgetTree.Markup

/-- Whether the characters stand ahead as punctuation without spaces between, and what lies behind
them. -/
def behindMarks? : List Char → List Token → Option (List Token)
  | [], tokens => some tokens
  | [c], .mark d _ :: rest => if c = d then some rest else none
  | c :: cs, .mark d true :: rest => if c = d then behindMarks? cs rest else none
  | _, _ => none

namespace Ahead

/-- Whether the punctuation stands ahead. -/
def marks (text : String) (tokens : List Token) : Bool := (behindMarks? text.toList tokens).isSome

/-- Whether some of the punctuation stands ahead. -/
def anyMarks (texts : List String) (tokens : List Token) : Bool := texts.any (marks · tokens)

/-- Whether a single point stands ahead, and not the dots of a range. -/
def point (tokens : List Token) : Bool := marks "." tokens && !marks ".." tokens

/-- Whether an exclamation mark stands ahead that begins no comparison. -/
def exclamation (tokens : List Token) : Bool := marks "!" tokens && !marks "!=" tokens

/-- Whether the word stands ahead. -/
def word (name : String) : List Token → Bool
  | .word other :: _ => other = name
  | _ => false

/-- Whether one of the words stands ahead. -/
def anyWordOf (names : List String) (tokens : List Token) : Bool := names.any (word · tokens)

/-- Whether any word stands ahead, reserved or not. -/
def anyWord : List Token → Bool
  | .word _ :: _ => true
  | _ => false

/-- Whether a word that may name something stands ahead. -/
def name : List Token → Bool
  | .word name :: _ => isName name
  | _ => false

/-- Whether a pair of brackets stands ahead. -/
def group (delimiter : Delimiter) : List Token → Bool
  | .group other _ :: _ => other = delimiter
  | _ => false

/-- Whether a number stands ahead. -/
def number : List Token → Bool
  | .literal ⟨_, .integer _ _⟩ :: _ => true
  | .literal ⟨_, .decimal _ _⟩ :: _ => true
  | _ => false

/-- Whether a literal stands ahead: a number may have a minus sign in front. -/
def literal : List Token → Bool
  | .literal _ :: _ => true
  | .word name :: _ => name = "true" || name = "false"
  | .mark '-' _ :: rest => number rest
  | _ => false

/-- Whether a literal text stands ahead. -/
def text : List Token → Bool
  | .literal ⟨_, .text _⟩ :: _ => true
  | _ => false

/-- Whether the name of a scope stands ahead: a word with an apostrophe in front. -/
def scopeName : List Token → Bool
  | .mark '\x27' true :: .word _ :: _ => true
  | _ => false

/-- What lies behind the first token ahead, where the name of a scope counts as one token. -/
def behind (tokens : List Token) : List Token :=
  if scopeName tokens then tokens.drop 2 else tokens.drop 1

end Ahead

/-- How far reading has come. -/
structure Cursor where
  /-- The tokens that were not read yet. -/
  ahead : List Token
  /-- What was read, the last token first. -/
  written : List Token := []
  /-- Whether no bracket was left before its end. -/
  complete : Bool := true

/-- What takes tokens off the front of those ahead, or fails. What a phrase takes it writes down, as
it is or in a plainer form, and what was written down may be revised later. -/
abbrev Phrase := StateT Cursor Option

namespace Phrase

/-- The tokens ahead. -/
def ahead : Phrase (List Token) := return (← get).ahead

/-- Takes what stands in front of these tokens, and writes down something instead of it. -/
def replace (plainer : List Token) (rest : List Token) : Phrase Unit :=
  modify fun cursor => { cursor with ahead := rest, written := plainer.reverse ++ cursor.written }

/-- Takes what stands in front of these tokens. -/
def goTo (rest : List Token) : Phrase Unit := do
  let tokens ← ahead
  replace (tokens.take (tokens.length - rest.length)) rest

/-- How many tokens have been written down. -/
def position : Phrase Nat := return (← get).written.length

/-- Writes down tokens that were not taken. -/
def write (tokens : List Token) : Phrase Unit :=
  modify fun cursor => { cursor with written := tokens.reverse ++ cursor.written }

/-- Replaces what was written down since a position. -/
def revise (since : Nat) (revision : List Token → List Token) : Phrase Unit :=
  modify fun cursor =>
    let count := cursor.written.length - since
    let tokens := (cursor.written.take count).reverse
    { cursor with written := (revision tokens).reverse ++ cursor.written.drop count }

/-- Puts round brackets around what was written down since a position. -/
def enclose (since : Nat) : Phrase Unit := revise since fun tokens => [.group .paren tokens]

/-- Strikes out what was written down between two positions. -/
def strike (start stop : Nat) : Phrase Unit := revise start (·.drop (stop - start))

/-- Whether the last token written down is a pair of braces. -/
def endsWithBrace : Phrase Bool := return Ahead.group .brace (← get).written

/-- Whether the tokens ahead satisfy a condition. -/
def sees (condition : List Token → Bool) : Phrase Bool := return condition (← ahead)

/-- Whether nothing lies ahead. -/
def atEnd : Phrase Bool := sees List.isEmpty

/-- Fails unless the condition holds. -/
def require (condition : Bool) : Phrase Unit := if condition then pure () else failure

/-- Takes one token. -/
def next : Phrase Token := do
  match ← ahead with
  | [] => failure
  | token :: rest =>
    goTo rest
    return token

/-- Takes the punctuation. -/
def marks (text : String) : Phrase Unit := do
  match behindMarks? text.toList (← ahead) with
  | some rest => goTo rest
  | none => failure

/-- Takes the punctuation if it stands ahead, and tells whether it does. -/
def takesMarks (text : String) : Phrase Bool := do
  match behindMarks? text.toList (← ahead) with
  | some rest =>
    goTo rest
    return true
  | none => return false

/-- Takes the word. -/
def word (name : String) : Phrase Unit := do
  require (Ahead.word name (← ahead))
  discard next

/-- Takes the word if it stands ahead, and tells whether it does. -/
def takesWord (name : String) : Phrase Bool := do
  if Ahead.word name (← ahead) then
    discard next
    return true
  else return false

/-- Takes a word that may name something. -/
def name : Phrase Unit := do
  require (Ahead.name (← ahead))
  discard next

/-- Takes a word, reserved or not. -/
def anyWord : Phrase Unit := do
  require (Ahead.anyWord (← ahead))
  discard next

/-- Takes a literal. -/
def literal : Phrase Unit := do
  require (Ahead.literal (← ahead))
  if Ahead.marks "-" (← ahead) then discard next
  discard next

/-- Takes the name of a scope. -/
def scopeName : Phrase Unit := do
  require (Ahead.scopeName (← ahead))
  discard next
  discard next

/-- Takes a pair of brackets with anything between them, and tells which. -/
def anyGroup : Phrase Delimiter := do
  match ← next with
  | .group delimiter _ => return delimiter
  | _ => failure

/-- Takes a pair of brackets and a phrase at the front of what stands between them. Tokens may be
left, but then what was read is incomplete. -/
def insideAtLeast {α : Type} (delimiter : Delimiter) (phrase : Phrase α) : Phrase α := do
  let outer ← get
  match outer.ahead with
  | .group other content :: behind =>
    require (other = delimiter)
    set ({ ahead := content, complete := outer.complete } : Cursor)
    let result ← phrase
    let inner ← get
    let group := .group delimiter (inner.written.reverse ++ inner.ahead)
    set ({
      ahead := behind
      written := group :: outer.written
      complete := inner.complete && inner.ahead.isEmpty } : Cursor)
    return result
  | _ => failure

/-- Takes a pair of brackets with a phrase between them. -/
def inside {α : Type} (delimiter : Delimiter) (phrase : Phrase α) : Phrase α :=
  insideAtLeast delimiter do
    let result ← phrase
    require (← atEnd)
    return result

/-- Takes a phrase, and writes its tokens down as they are if the result says so. -/
def asGivenIf {α : Type} (asGiven : α → Bool) (phrase : Phrase α) : Phrase α := do
  let before ← get
  let result ← phrase
  if asGiven result then
    let after ← get
    let taken := before.ahead.take (before.ahead.length - after.ahead.length)
    set { after with written := taken.reverse ++ before.written }
  return result

/-- Takes a phrase and writes nothing down, but gives what would have been written. -/
def withheld {α : Type} (phrase : Phrase α) : Phrase (α × List Token) := do
  let before := (← get).written
  let result ← phrase
  let after := (← get).written
  modify fun cursor => { cursor with written := before }
  return (result, (after.take (after.length - before.length)).reverse)

/-- Takes what introduces a list and the list. An empty list is written without its introduction. -/
def introduced (introduction list : Phrase Unit) : Phrase Unit := do
  let start ← position
  introduction
  let behind ← position
  list
  if (← position) = behind then strike start behind

/-- Takes a phrase as often as the condition holds for the tokens ahead, at most so many times. -/
def whileSeen (condition : List Token → Bool) (phrase : Phrase Unit) : Nat → Phrase Unit
  | 0 => pure ()
  | rounds + 1 => do
    if condition (← ahead) then
      phrase
      whileSeen condition phrase rounds

/-- Takes a phrase again and again while the condition holds for the tokens ahead. A phrase takes at
least one token, so the number of tokens is rounds enough. -/
def repeated (condition : List Token → Bool) (phrase : Phrase Unit) : Phrase Unit := do
  whileSeen condition phrase (← ahead).length

/-- Takes phrases with the punctuation between them, and maybe behind the last, up to where the
condition holds; at most so many. -/
def listedUpTo (stop : List Token → Bool) (mark : String) (phrase : Phrase Unit) : Nat → Phrase Unit
  | 0 => do require (stop (← ahead))
  | rounds + 1 => do
    if stop (← ahead) then pure ()
    else
      phrase
      if stop (← ahead) then pure ()
      else
        marks mark
        listedUpTo stop mark phrase rounds

/-- Takes phrases with plus signs between them, and maybe behind the last, up to where the condition
holds. -/
def summed (stop : List Token → Bool) (phrase : Phrase Unit) : Phrase Unit := do
  listedUpTo stop "+" phrase (← ahead).length

/-- Takes phrases with commas between them, and maybe behind the last, up to where the condition
holds. -/
def listed (stop : List Token → Bool) (phrase : Phrase Unit) : Phrase Unit := do
  listedUpTo stop "," phrase (← ahead).length

/-- Takes phrases with commas between them, and maybe behind the last, up to the end. -/
def listedToEnd (phrase : Phrase Unit) : Phrase Unit := listed List.isEmpty phrase

end Phrase

/-- An entry of a list with commas. -/
structure Entry where
  /-- Whether the entry speaks of a scope. -/
  ofScope : Bool
  tokens : List Token
  /-- The comma behind the entry, if there is one. -/
  comma : List Token

namespace Entry

/-- Entries with commas between them. -/
def joined : List Entry → List Token
  | [] => []
  | [last] => last.tokens ++ last.comma
  | first :: rest =>
    let comma := if first.comma.isEmpty then [.mark ',' false] else first.comma
    first.tokens ++ comma ++ joined rest

/-- Entries with those that speak of scopes in front. -/
def arranged (entries : List Entry) : List Token :=
  joined (entries.filter (·.ofScope) ++ entries.filter (!·.ofScope))

end Entry

namespace Phrase

/-- Takes entries with commas between them, and maybe behind the last, up to where the condition
holds, at most so many. An entry tells whether it speaks of a scope. -/
def entriesUpTo (stop : List Token → Bool) (entry : Phrase Bool) : Nat → Phrase (List Entry)
  | 0 => do
    require (stop (← ahead))
    return []
  | rounds + 1 => do
    if stop (← ahead) then return []
    else
      let (ofScope, tokens) ← withheld entry
      if stop (← ahead) then return [⟨ofScope, tokens, []⟩]
      else
        let ((), comma) ← withheld (marks ",")
        let rest ← entriesUpTo stop entry rounds
        return ⟨ofScope, tokens, comma⟩ :: rest

/-- Takes entries with commas between them, and maybe behind the last, up to where the condition
holds. Those that speak of scopes are written first. Tells whether there is any entry. -/
def entries (stop : List Token → Bool) (entry : Phrase Bool) : Phrase Bool := do
  let taken ← entriesUpTo stop entry (← ahead).length
  write (Entry.arranged taken)
  return !taken.isEmpty

end Phrase

end WidgetTree.Markup
