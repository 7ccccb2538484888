import WidgetTree.Json.Numeral
import WidgetTree.Text.Digit

namespace WidgetTree.Json

open Text

/-- Blanks between the parts of a document. -/
def isBlank (c : Char) : Bool := c = ' ' || c = '\t' || c = '\n' || c = '\r'

/-- The text without the blanks in front. -/
def skipBlanks (cs : List Char) : List Char := cs.dropWhile isBlank

/-- The number that four hexadecimal digits spell. They are looked for in four bytes of text, so
the text has ended early if it has fewer. -/
def hexUnit (cs : List Char) : Except Fault (Nat × List Char) :=
  if (cs.take 4).foldl (fun n c => n + c.utf8Size) 0 < 4 then .error .truncated
  else match cs with
    | a :: b :: c :: d :: rest =>
      match hexValue? a, hexValue? b, hexValue? c, hexValue? d with
      | some a, some b, some c, some d => .ok (((a * 16 + b) * 16 + c) * 16 + d, rest)
      | _, _, _, _ => .error .malformed
    | _ => .error .malformed

/-- The character that hexadecimal digits spell. A leading surrogate must be followed by an escaped
trailing one, and a trailing one may not stand alone. -/
def escapedUnit (cs : List Char) : Except Fault (Char × List Char) := do
  let (unit, rest) ← hexUnit cs
  if 0xDC00 ≤ unit ∧ unit ≤ 0xDFFF then throw .malformed
  if unit < 0xD800 ∨ 0xDBFF < unit then return (Char.ofNat unit, rest)
  match rest with
  | [] => throw .truncated
  | '\\' :: [] => throw .truncated
  | '\\' :: 'u' :: behind =>
    let (trail, rest) ← hexUnit behind
    if trail < 0xDC00 ∨ 0xDFFF < trail then throw .malformed
    return (Char.ofNat ((unit - 0xD800) * 0x400 + (trail - 0xDC00) + 0x10000), rest)
  | _ => throw .malformed

/-- The character that an escape stands for, behind its backslash. -/
def escaped : List Char → Except Fault (Char × List Char)
  | [] => .error .truncated
  | '"' :: rest => .ok ('"', rest)
  | '\\' :: rest => .ok ('\\', rest)
  | '/' :: rest => .ok ('/', rest)
  | 'b' :: rest => .ok ('\x08', rest)
  | 'f' :: rest => .ok ('\x0c', rest)
  | 'n' :: rest => .ok ('\n', rest)
  | 'r' :: rest => .ok ('\r', rest)
  | 't' :: rest => .ok ('\t', rest)
  | 'u' :: rest => escapedUnit rest
  | _ => .error .malformed

/-- The string behind an opening quote, with what was read of it in front. Each step takes at least
one character, so the length of the text is steps enough. -/
def stringFrom : Nat → List Char → List Char → Except Fault (String × List Char)
  | 0, _, _ => .error .truncated
  | steps + 1, read, cs =>
    match cs with
    | [] => .error .truncated
    | '"' :: rest => .ok (String.ofList read.reverse, rest)
    | '\\' :: rest => do
      let (c, rest) ← escaped rest
      stringFrom steps (c :: read) rest
    | c :: rest => if c.toNat < 0x20 then .error .malformed else stringFrom steps (c :: read) rest

/-- Takes the letters of a word off the text. -/
def expectWord : List Char → List Char → Except Fault (List Char)
  | [], cs => .ok cs
  | _ :: _, [] => .error .truncated
  | letter :: letters, c :: cs => if letter = c then expectWord letters cs else .error .malformed

/-- A document with the rest of its text, unless reading stopped inside it. -/
abbrev Reading := Document × Option (List Char)

/-- Reading goes on behind a scalar or stops at its fault. -/
def Reading.ofScalar {α : Type} (document : α → Document) :
    Except Fault (α × List Char) → Reading
  | .ok (scalar, rest) => (document scalar, some rest)
  | .error fault => (.broken fault, none)

/-- The scalar at the front of the text. -/
def readScalar (cs : List Char) : Reading :=
  match cs with
  | 'n' :: rest => .ofScalar (fun _ => .null) ((expectWord "ull".toList rest).map ((), ·))
  | 't' :: rest => .ofScalar (fun _ => .bool true) ((expectWord "rue".toList rest).map ((), ·))
  | 'f' :: rest => .ofScalar (fun _ => .bool false) ((expectWord "alse".toList rest).map ((), ·))
  | '"' :: rest => .ofScalar .string (stringFrom cs.length [] rest)
  | '-' :: _ => .ofScalar .number (numeral cs)
  | c :: _ => if c.isDigit then .ofScalar .number (numeral cs) else (.broken .malformed, none)
  | [] => (.broken .truncated, none)

/-- Items or members, what is wrong at their end, and the rest of the text unless reading stopped
among them. -/
structure Series (α : Type) where
  entries : List α
  fault : Option Fault
  rest : Option (List Char)

namespace Series

variable {α : Type}

/-- Reading stopped in the entry. -/
def stopped (entry : α) : Series α := ⟨[entry], none, none⟩

/-- No further entry. -/
def ended (rest : List Char) : Series α := ⟨[], none, some rest⟩

/-- Something is wrong where a comma or the end was due. -/
def faulty (fault : Fault) : Series α := ⟨[], some fault, none⟩

/-- One entry more in front. -/
def cons (entry : α) (series : Series α) : Series α :=
  { series with entries := entry :: series.entries }

end Series

/-- The name of a member, given what is read at its place and the text there. -/
def readName (reading : Reading) (cs : List Char) :
    Except (Except Fault String × Document) (String × List Char) :=
  match reading, cs with
  | (.string name, some rest), _ => .ok (name, rest)
  | (.broken fault, _), [] => .error (.error fault, .broken fault)
  | (.broken fault, _), '"' :: _ => .error (.error fault, .broken fault)
  | _, _ => .error (.error .malformed, .broken .malformed)

mutual

/-- The document at the front of the text. Each step takes at least one character, so one step more
than the text is long are enough. There is room for so many containers inside each other; one more
is a fault in the container that is too deep. -/
def readDocument : Nat → Nat → List Char → Reading
  | 0, _, _ => (.broken .truncated, none)
  | steps + 1, room, cs =>
    match skipBlanks cs with
    | '[' :: rest =>
      match room with
      | 0 => (.list [.broken .malformed] none, none)
      | room + 1 =>
        let items := match skipBlanks rest with
          | ']' :: behind => Series.ended behind
          | behind => readItems steps room behind
        (.list items.entries items.fault, items.rest)
    | '\x7b' :: rest =>
      match room with
      | 0 => (.object [(.error .malformed, .broken .malformed)] none, none)
      | room + 1 =>
        let members := match skipBlanks rest with
          | '\x7d' :: behind => Series.ended behind
          | behind => readMembers steps room behind
        (.object members.entries members.fault, members.rest)
    | cs => readScalar cs

/-- The items of a list from here on; at least one is due. -/
def readItems : Nat → Nat → List Char → Series Document
  | 0, _, _ => .stopped (.broken .truncated)
  | steps + 1, room, cs =>
    match readDocument steps room cs with
    | (item, none) => .stopped item
    | (item, some rest) =>
      .cons item <| match skipBlanks rest with
        | ']' :: behind => .ended behind
        | ',' :: behind => readItems steps room behind
        | behind => .faulty (faultAt behind)

/-- The members of an object from here on; at least one is due. -/
def readMembers : Nat → Nat → List Char → Series (Except Fault String × Document)
  | 0, _, _ => .stopped (.error .truncated, .broken .truncated)
  | steps + 1, room, cs =>
    match readName (readDocument steps room cs) (skipBlanks cs) with
    | .error entry => .stopped entry
    | .ok (name, rest) =>
      match skipBlanks rest with
      | ':' :: behind =>
        match readDocument steps room behind with
        | (item, none) => .stopped (.ok name, item)
        | (item, some rest) =>
          .cons (.ok name, item) <| match skipBlanks rest with
            | '\x7d' :: behind => .ended behind
            | ',' :: behind => readMembers steps room behind
            | behind => .faulty (faultAt behind)
      | behind => .stopped (.ok name, .broken (faultAt behind))

end

/-- A document, and what is wrong behind it if it is sound itself. -/
structure Source where
  document : Document
  trailing : Option Fault

/-- Reads a whole text. Behind the document only blanks may stand. -/
def Source.ofText (room : Nat) (text : String) : Source :=
  let cs := text.toList
  match readDocument (2 * cs.length + 2) room cs with
  | (document, none) => ⟨document, none⟩
  | (document, some rest) =>
    ⟨document, if (skipBlanks rest).isEmpty then none else some .malformed⟩

/-- How many containers inside each other a text in JSON may have. -/
def nestingLimit : Nat := 127

end WidgetTree.Json
