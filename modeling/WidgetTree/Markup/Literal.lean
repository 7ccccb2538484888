import WidgetTree.Text.Digit
import WidgetTree.Text.Identifier

namespace WidgetTree.Markup

open Text

/-- What a literal means. -/
inductive LiteralValue
  | text (content : String)
  | character (c : Char)
  /-- A whole number, with the suffix that follows it. -/
  | integer (n : Nat) (suffix : String)
  /-- A number with a point or an exponent: its digits, with the suffix that follows them. -/
  | decimal (digits : String) (suffix : String)
  /-- Bytes and the like, which have no meaning here. -/
  | other
deriving DecidableEq

/-- A literal as it is written, with what it means. A literal is read off the front of a text; an
identifier that follows at once is its suffix. -/
structure Literal where
  source : String
  value : LiteralValue
deriving DecidableEq

/-- What a literal means and the text behind it, if a text begins with one. -/
abbrev LiteralReading := Option (LiteralValue × List Char)

/-- The identifier at the front of a text and the text behind it; no identifier, no letters. -/
def splitWord : List Char → List Char × List Char
  | [] => ([], [])
  | c :: cs =>
    if startsIdentifier c then
      (c :: cs.takeWhile continuesIdentifier, cs.dropWhile continuesIdentifier)
    else ([], c :: cs)

/-- The text behind a suffix, if there is one. -/
def behindSuffix (cs : List Char) : List Char := (splitWord cs).2

/-- Whether an identifier may not go on here. -/
def wordEnds : List Char → Bool
  | [] => true
  | c :: _ => !continuesIdentifier c

/-- Underscores may stand among the digits and mean nothing. -/
def isSpacedDigit (c : Char) : Bool := c.isDigit || c = '_'

/-- The digits without the underscores among them. -/
def withoutSpacing (cs : List Char) : List Char := cs.filter (· ≠ '_')

/-- The exponent behind its mark, without underscores and without a plus sign, and the text behind
it. At least one digit is due. -/
def exponent? (cs : List Char) : Option (List Char × List Char) :=
  let (sign, rest) := match cs.dropWhile (· = '_') with
    | '-' :: rest => (['-'], rest)
    | '+' :: rest => ([], rest)
    | rest => ([], rest)
  let rest := rest.dropWhile (· = '_')
  match rest with
  | [] => none
  | c :: _ =>
    if c.isDigit then
      some (sign ++ withoutSpacing (rest.takeWhile isSpacedDigit), rest.dropWhile isSpacedDigit)
    else none

/-- The exponent at the front of a text with its mark written small, and the text behind it. -/
def markedExponent? : List Char → Option (List Char × List Char)
  | c :: cs =>
    if c = 'e' || c = 'E' then (exponent? cs).map fun (digits, rest) => ('e' :: digits, rest)
    else none
  | [] => none

/-- Whether a point at this place ends the number in front: another point or a name follows. -/
def pointIsNoPart : List Char → Bool
  | [] => false
  | c :: _ => c = '.' || startsIdentifier c

/-- The digits of a number with a point or an exponent, and the text behind them. -/
def decimalDigits? (cs : List Char) : Option (List Char × List Char) :=
  let whole := withoutSpacing (cs.takeWhile isSpacedDigit)
  match cs.dropWhile isSpacedDigit with
  | '.' :: behind =>
    if pointIsNoPart behind then none
    else
      let digits := whole ++ '.' :: withoutSpacing (behind.takeWhile isSpacedDigit)
      let rest := behind.dropWhile isSpacedDigit
      match markedExponent? rest with
      | some (exponent, rest) => some (digits ++ exponent, rest)
      | none => some (digits, rest)
  | rest => (markedExponent? rest).map fun (exponent, rest) => (whole ++ exponent, rest)

/-- Whether a character is a digit of the base, or an underscore among digits. -/
def isDigitOf (base : Nat) (c : Char) : Bool := c = '_' || (hexValue? c).any (· < base)

/-- The number that digits spell in a base. -/
def numberOf (base : Nat) (digits : List Char) : Nat :=
  digits.foldl (fun n c => n * base + (hexValue? c).getD 0) 0

/-- The whole number that digits of the base spell, and the text behind them. A digit of a greater
base may not follow. -/
def wholeIn? (base : Nat) (cs : List Char) : Option (Nat × List Char) :=
  let digits := withoutSpacing (cs.takeWhile (isDigitOf base))
  let rest := cs.dropWhile (isDigitOf base)
  if digits.isEmpty || rest.head?.any Char.isDigit then none else some (numberOf base digits, rest)

/-- The whole number at the front of a text, in the base that its first characters tell. -/
def whole? : List Char → Option (Nat × List Char)
  | '0' :: 'x' :: rest => wholeIn? 16 rest
  | '0' :: 'o' :: rest => wholeIn? 8 rest
  | '0' :: 'b' :: rest => wholeIn? 2 rest
  | cs => wholeIn? 10 cs

/-- A number that was read, with its suffix. Behind it no identifier may go on. -/
def suffixed (value : String → LiteralValue) (rest : List Char) : LiteralReading :=
  let (suffix, rest) := splitWord rest
  if wordEnds rest then some (value (String.ofList suffix), rest) else none

/-- The number at the front of a text. What could have a point or an exponent has them. -/
def number? (cs : List Char) : LiteralReading :=
  if !cs.head?.any Char.isDigit then none
  else
    let decimal := (decimalDigits? cs).bind fun (digits, rest) =>
      suffixed (.decimal (String.ofList digits)) rest
    let whole := (whole? cs).bind fun (n, rest) => suffixed (.integer n) rest
    decimal.or whole

/-- What may stand between the quotes of a kind of literal. -/
structure Quoting where
  /-- Whether a character may stand for itself. -/
  plain : Char → Bool
  /-- Whether a code point may be written by two hexadecimal digits. -/
  short : Nat → Bool
  /-- Whether a character may be written by its code point in braces. -/
  long : Char → Bool
  /-- Whether an escape of its own stands for the null character. -/
  null : Bool

namespace Quoting

/-- Texts and characters. -/
def text : Quoting := ⟨fun _ => true, (· < 0x80), fun _ => true, true⟩

/-- Bytes: ASCII, or any byte by its digits. -/
def bytes : Quoting := ⟨(·.toNat < 0x80), fun _ => true, fun _ => false, true⟩

/-- Texts that a null character ends, so that none may stand in them. -/
def terminated : Quoting := ⟨(· ≠ '\x00'), (· ≠ 0), (· ≠ '\x00'), false⟩

/-- The code point of up to six hexadecimal digits in front of a closing brace. Behind the first
digit underscores may stand. -/
def codePoint? (count value : Nat) : List Char → Option (Nat × List Char)
  | [] => none
  | c :: rest =>
    if 0 < count && c = '_' then codePoint? count value rest
    else if 0 < count && c = '\x7d' then some (value, rest)
    else match hexValue? c with
      | some digit => if count < 6 then codePoint? (count + 1) (value * 16 + digit) rest else none
      | none => none

/-- The character of an escape, behind its backslash, and the text behind it. -/
def escaped? (q : Quoting) : List Char → Option (Char × List Char)
  | 'n' :: rest => some ('\n', rest)
  | 'r' :: rest => some ('\r', rest)
  | 't' :: rest => some ('\t', rest)
  | '\\' :: rest => some ('\\', rest)
  | '\x27' :: rest => some ('\x27', rest)
  | '"' :: rest => some ('"', rest)
  | '0' :: rest => if q.null then some ('\x00', rest) else none
  | 'x' :: high :: low :: rest =>
    match hexValue? high, hexValue? low with
    | some high, some low =>
      let code := high * 16 + low
      if q.short code then some (Char.ofNat code, rest) else none
    | _, _ => none
  | 'u' :: '\x7b' :: rest =>
    match codePoint? 0 0 rest with
    | some (code, rest) =>
      if code.isValidChar && q.long (Char.ofNat code) then some (Char.ofNat code, rest) else none
    | none => none
  | _ => none

/-- The text behind a line break that a backslash takes out, and behind the blanks after it.
Something must follow. -/
def behindBreak? : List Char → Option (List Char)
  | [] => none
  | '\r' :: '\n' :: rest => behindBreak? rest
  | '\r' :: _ => none
  | c :: rest => if c = '\n' || c = ' ' || c = '\t' then behindBreak? rest else some (c :: rest)

/-- The characters up to the closing quote, and the text behind it. A carriage return stands only in
front of a line feed, and the two are one line break. Each step takes at least one character, so the
length of the text is steps enough. -/
def body? (q : Quoting) : Nat → List Char → Option (List Char × List Char)
  | 0, _ => none
  | steps + 1, cs =>
    match cs with
    | [] => none
    | '"' :: rest => some ([], rest)
    | '\r' :: '\n' :: rest => (body? q steps rest).map fun (read, rest) => ('\n' :: read, rest)
    | '\r' :: _ => none
    | '\\' :: '\n' :: rest => (behindBreak? ('\n' :: rest)).bind (body? q steps)
    | '\\' :: '\r' :: rest => (behindBreak? ('\r' :: rest)).bind (body? q steps)
    | '\\' :: rest => do
      let (c, rest) ← q.escaped? rest
      let (read, rest) ← body? q steps rest
      return (c :: read, rest)
    | c :: rest =>
      if q.plain c then (body? q steps rest).map fun (read, rest) => (c :: read, rest) else none

/-- The one character in front of a closing apostrophe, and the text behind that. -/
def single? (q : Quoting) (cs : List Char) : Option (Char × List Char) := do
  let (c, rest) ← match cs with
    | [] => none
    | '\\' :: rest => q.escaped? rest
    | c :: rest => if q.plain c then some (c, rest) else none
  match rest with
  | '\x27' :: rest => return (c, rest)
  | _ => none

/-- The characters up to a quote with so many number signs, none of them escaped, and the text
behind. -/
def rawBody? (q : Quoting) (signs : Nat) : List Char → Option (List Char × List Char)
  | [] => none
  | '\r' :: '\n' :: rest =>
    (rawBody? q signs rest).map fun (read, rest) => ('\r' :: '\n' :: read, rest)
  | '\r' :: _ => none
  | c :: rest =>
    if c = '"' && (rest.take signs == List.replicate signs '#') then some ([], rest.drop signs)
    else if q.plain c then (rawBody? q signs rest).map fun (read, rest) => (c :: read, rest)
    else none

/-- The most number signs that a text without escapes may be fenced with. -/
def mostSigns : Nat := 255

/-- The characters of a text without escapes, behind the letter that tells so, and the text behind
it. -/
def raw? (q : Quoting) (cs : List Char) : Option (List Char × List Char) :=
  let signs := (cs.takeWhile (· = '#')).length
  match cs.drop signs with
  | '"' :: rest => if signs ≤ mostSigns then q.rawBody? signs rest else none
  | _ => none

/-- The characters of a text with escapes, behind its opening quote, and the text behind it. -/
def cooked? (q : Quoting) (cs : List Char) : Option (List Char × List Char) :=
  q.body? (cs.length + 1) cs

end Quoting

/-- A text that was read. Its suffix means nothing. -/
def textReading (reading : Option (List Char × List Char)) : LiteralReading :=
  reading.map fun (content, rest) => (.text (String.ofList content), behindSuffix rest)

/-- A character that was read. Its suffix means nothing. -/
def characterReading (reading : Option (Char × List Char)) : LiteralReading :=
  reading.map fun (c, rest) => (.character c, behindSuffix rest)

/-- Something was read that means nothing here. -/
def otherReading {α : Type} (reading : Option (α × List Char)) : LiteralReading :=
  reading.map fun (_, rest) => (.other, behindSuffix rest)

/-- What the literal at the front of a text means, and the text behind it. -/
def literalValue? (cs : List Char) : LiteralReading :=
  match cs with
  | '"' :: rest => textReading (Quoting.text.cooked? rest)
  | 'r' :: rest => textReading (Quoting.text.raw? rest)
  | 'b' :: '"' :: rest => otherReading (Quoting.bytes.cooked? rest)
  | 'b' :: 'r' :: rest => otherReading (Quoting.bytes.raw? rest)
  | 'c' :: '"' :: rest => otherReading (Quoting.terminated.cooked? rest)
  | 'c' :: 'r' :: rest => otherReading (Quoting.terminated.raw? rest)
  | 'b' :: '\x27' :: rest => otherReading (Quoting.bytes.single? rest)
  | '\x27' :: rest => characterReading (Quoting.text.single? rest)
  | _ => number? cs

/-- The literal at the front of a text, and the text behind it. -/
def literal? (cs : List Char) : Option (Literal × List Char) :=
  (literalValue? cs).map fun (value, rest) =>
    (⟨String.ofList (cs.take (cs.length - rest.length)), value⟩, rest)

end WidgetTree.Markup
