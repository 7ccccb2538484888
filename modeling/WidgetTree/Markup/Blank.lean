namespace WidgetTree.Markup

/-- White space: the characters with the Unicode property `White_Space`, and the marks that set the
direction of writing. -/
def isSpace (c : Char) : Bool :=
  let n := c.toNat
  (0x09 ≤ n && n ≤ 0x0D) || n = 0x20 || n = 0x85 || n = 0xA0 || n = 0x1680 ||
    (0x2000 ≤ n && n ≤ 0x200A) || n = 0x200E || n = 0x200F || n = 0x2028 || n = 0x2029 ||
    n = 0x202F || n = 0x205F || n = 0x3000

/-- The rest of the line and the text behind it. The line break is no part of the line. -/
def splitLine : List Char → List Char × List Char
  | [] => ([], [])
  | '\n' :: rest => ([], '\n' :: rest)
  | '\r' :: '\n' :: rest => ([], '\n' :: rest)
  | c :: rest =>
    let (line, behind) := splitLine rest
    (c :: line, behind)

/-- The text of a block comment and the text behind it, given how many blocks are open. Blocks may
stand inside each other. -/
def splitBlock? : Nat → List Char → Option (List Char × List Char)
  | _, [] => none
  | depth, '/' :: '*' :: rest =>
    (splitBlock? (depth + 1) rest).map fun (read, rest) => ('/' :: '*' :: read, rest)
  | depth, '*' :: '/' :: rest =>
    if depth ≤ 1 then some (['*', '/'], rest)
    else (splitBlock? (depth - 1) rest).map fun (read, rest) => ('*' :: '/' :: read, rest)
  | depth, c :: rest => (splitBlock? depth rest).map fun (read, rest) => (c :: read, rest)

/-- The text behind a comment that is blank, if a text begins with one. -/
def behindComment? (cs : List Char) : Option (List Char) :=
  match cs with
  | '/' :: '/' :: '!' :: _ => none
  | '/' :: '/' :: '/' :: '/' :: _ => some (splitLine cs).2
  | '/' :: '/' :: '/' :: _ => none
  | '/' :: '/' :: _ => some (splitLine cs).2
  | '/' :: '*' :: '*' :: '/' :: rest => some rest
  | '/' :: '*' :: '!' :: _ => none
  | '/' :: '*' :: '*' :: '*' :: _ => (splitBlock? 0 cs).map Prod.snd
  | '/' :: '*' :: '*' :: _ => none
  | '/' :: '*' :: _ => (splitBlock? 0 cs).map Prod.snd
  | _ => none

/-- The text without the blanks in front. Each step takes at least one character, so the length of
the text is steps enough. -/
def skipBlanks : Nat → List Char → List Char
  | 0, cs => cs
  | steps + 1, cs =>
    match cs with
    | [] => []
    | c :: rest =>
      if isSpace c then skipBlanks steps rest
      else match behindComment? cs with
        | some rest => skipBlanks steps rest
        | none => cs

/-- A comment about what it stands with. -/
structure Remark where
  text : List Char
  /-- Whether it speaks about what it stands in, and not about what follows. -/
  enclosing : Bool

/-- Whether each carriage return stands in front of a line feed. -/
def returnsPaired : List Char → Bool
  | [] => true
  | '\r' :: '\n' :: rest => returnsPaired rest
  | '\r' :: _ => false
  | _ :: rest => returnsPaired rest

/-- A remark, if every carriage return in it is part of a line break. -/
def remark? (enclosing : Bool) (split : List Char × List Char) : Option (Remark × List Char) :=
  if returnsPaired split.1 then some (⟨split.1, enclosing⟩, split.2) else none

/-- The text of a block without the marks around it, of which the first has three characters. -/
def blockRemark? (enclosing : Bool) (cs : List Char) : Option (Remark × List Char) :=
  (splitBlock? 0 cs).bind fun (read, rest) =>
    remark? enclosing ((read.drop 3).dropLast.dropLast, rest)

/-- The remark at the front of a text and the text behind it. -/
def splitRemark? (cs : List Char) : Option (Remark × List Char) :=
  match cs with
  | '/' :: '/' :: '!' :: rest => remark? true (splitLine rest)
  | '/' :: '*' :: '!' :: _ => blockRemark? true cs
  | '/' :: '/' :: '/' :: '/' :: _ => none
  | '/' :: '/' :: '/' :: rest => remark? false (splitLine rest)
  | '/' :: '*' :: '*' :: '*' :: _ => none
  | '/' :: '*' :: '*' :: _ => blockRemark? false cs
  | _ => none

end WidgetTree.Markup
