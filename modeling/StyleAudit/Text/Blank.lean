import StyleAudit.Text.Basic

/-!
# Blank characters, words and lines

- `Text.isBlank`: the characters with the Unicode property `White_Space`; `Text.isSpace`: the
  few of them that count as blank in markup.
- `Text.trim`, `Text.trimStart`, `Text.trimEnd`: blanks removed at the ends.
- `Text.words`: the maximal runs of characters that are not blank; `Text.listed`: the items of
  a list in markup.
- `Text.lines`: the lines of a text without their line breaks.
-/

namespace StyleAudit.Text

/-- Characters with the Unicode property `White_Space`. -/
def isBlank (c : Char) : Bool :=
  let n := c.toNat
  (9 ≤ n && n ≤ 13) || n == 0x20 || n == 0x85 || n == 0xA0 || n == 0x1680 ||
    (0x2000 ≤ n && n ≤ 0x200A) || n == 0x2028 || n == 0x2029 || n == 0x202F ||
    n == 0x205F || n == 0x3000

/-- The blanks of markup and selectors: space, tab, line feed, form feed, carriage return. -/
def isSpace (c : Char) : Bool :=
  c == ' ' || c == '\t' || c == '\n' || c == '\r' || c == '\x0c'

/-- Drop the blanks at the start. -/
def trimStart (text : Text) : Text := text.dropWhile isBlank

/-- Drop the blanks at the end. -/
def trimEnd (text : Text) : Text := (text.reverse.dropWhile isBlank).reverse

/-- Drop the blanks at both ends. -/
def trim (text : Text) : Text := trimEnd (trimStart text)

/-- The pieces between the characters that satisfy `isBreak`; there is always
one piece more than there are such characters. -/
def pieces (isBreak : Char → Bool) : Text → List Text
  | [] => [[]]
  | c :: cs =>
    if isBreak c then [] :: pieces isBreak cs
    else
      match pieces isBreak cs with
      | [] => [[c]]
      | p :: ps => (c :: p) :: ps

/-- The maximal runs of characters that are not blank. -/
def words (text : Text) : List Text := (pieces isBlank text).filter fun word => !word.isEmpty

/-- The items of a list in markup: the maximal runs of characters that are no spaces. -/
def listed (text : Text) : List Text := (pieces isSpace text).filter fun item => !item.isEmpty

/-- Drop one carriage return at the end. -/
def chomp (text : Text) : Text :=
  match text.reverse with
  | '\r' :: rest => rest.reverse
  | _ => text

/-- The lines of pieces cut at line feeds: a carriage return before a line feed
belongs to the break, and nothing after the last line feed is no line. -/
def linesOfPieces : List Text → List Text
  | [] => []
  | [last] => if last.isEmpty then [] else [last]
  | piece :: rest => chomp piece :: linesOfPieces rest

/-- The lines of a text, without their breaks. -/
def lines (text : Text) : List Text := linesOfPieces (pieces (· == '\n') text)

/-- Texts joined with a separator between them. -/
def join (separator : Text) : List Text → Text
  | [] => []
  | [only] => only
  | first :: rest => first ++ separator ++ join separator rest

end StyleAudit.Text
