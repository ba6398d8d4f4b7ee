import StyleAudit.Text.Blank
import StyleAudit.Source.Span

/-!
# Lines of a source

- `Line`: a line with its number, its start and its text without the break.
- `bisect`: where a word is in an ascending table.
- `LineIndex`: the lines of a text, the table of their starts and the text's length.
- `LineIndex.position?`: the line and column of a byte offset, looked up in the table.
- `LineIndex.line?`, `LineIndex.readLines`: lines cut out of the text between their starts.

A line ends at a line feed; one carriage return at its end is not part of it,
also on the last line. A text has one line more than it has line feeds.
-/

namespace StyleAudit

/-- A line of a source, without its break. -/
structure Line where
  /-- Its number, counted from 0. -/
  number : Nat
  /-- The byte offset at which it starts. -/
  start : Nat
  /-- Its text. -/
  text : Text
  deriving DecidableEq, Repr

/-- The span of a line's text. -/
def Line.span (line : Line) : Span := .ofOffsets line.start (line.start + line.text.bytes)

/-- The span of `length` bytes from byte `column` of a line on. -/
def Line.spanAt (line : Line) (column length : Nat) : Span :=
  .ofOffsets (line.span.start.toNat + column) (line.span.start.toNat + column + length)

/-- A line and column, both counted from 0; columns count bytes. -/
structure Position where
  line : Nat
  column : Nat
  deriving DecidableEq, Repr

/-! ## Tables -/

/-- Where a word is in an ascending table. -/
inductive Rank where
  /-- It is the entry with this index. -/
  | found (index : Nat)
  /-- It is no entry, and would come before the one with this index. -/
  | absent (index : Nat)
  deriving DecidableEq, Repr

/-- Where a word is in the part of an ascending table between two indices, found by halving. -/
def bisect (table : Array UInt32) (word : UInt32) (low high : Nat) (within : high ≤ table.size) :
    Rank :=
  if inside : low < high then
    let middle := low + (high - low) / 2
    have hmiddle : middle < table.size := by omega
    if table[middle] = word then .found middle
    else if table[middle] < word then bisect table word (middle + 1) high within
    else bisect table word low middle (by omega)
  else .absent low
termination_by high - low

/-! ## Indices -/

/-- The lines of a text, the offsets at which they start and the length of the text. As in
spans, offsets are 32-bit words. -/
structure LineIndex where
  lines : List Line
  starts : Array UInt32
  size : UInt32

namespace LineIndex

/-- Number consecutive pieces of a text that were separated by one byte each. -/
def numberFrom (number start : Nat) : List Text → List Line
  | [] => []
  | piece :: rest =>
    ⟨number, start, piece.chomp⟩ :: numberFrom (number + 1) (start + piece.bytes + 1) rest

/-- The offsets right after the line feeds of a text that starts at `offset`. -/
def startsAfter (offset : Nat) : Text → List Nat
  | [] => []
  | c :: cs =>
    let next := offset + c.utf8Size
    if c = '\n' then next :: startsAfter next cs else startsAfter next cs

/-- The index of a text. -/
def ofText (text : Text) : LineIndex where
  lines := numberFrom 0 0 (text.pieces (· == '\n'))
  starts := ((0 :: startsAfter 0 text).map Nat.toUInt32).toArray
  size := text.bytes.toUInt32

/-- How many lines there are. -/
def lineCount (index : LineIndex) : Nat := index.starts.size

/-- The number of the line on which an offset lies: that of the line that starts there, or else
the one before the first line that starts later. -/
def lineNumberAt (index : LineIndex) (offset : UInt32) : Nat :=
  match bisect index.starts offset 0 index.starts.size (Nat.le_refl _) with
  | .found line => line
  | .absent next => next - 1

/-- The offset at which a line starts. -/
def lineStart? (index : LineIndex) (number : Nat) : Option UInt32 := index.starts[number]?

/-- The line and column of an offset; none past the end of the text. -/
def position? (index : LineIndex) (offset : UInt32) : Option Position :=
  if index.size < offset then none
  else
    let number := index.lineNumberAt offset
    (index.lineStart? number).map fun start => ⟨number, (offset - start).toNat⟩

/-- The span of a line in the text that the index was made from: up to the line feed before the
next line or to the end of the text, without a carriage return there. -/
def lineSpan? (index : LineIndex) (number : Nat) (text : Text) : Option Span :=
  (index.lineStart? number).map fun start =>
    let stop := ((index.lineStart? (number + 1)).map (· - 1)).getD index.size
    let returns := decide (start < stop) && text.utf8[stop.toNat - 1]? == some '\r'.toUInt8
    ⟨start, if returns then stop - 1 else stop⟩

/-- The line with a given number, cut out of the text that the index was made from. -/
def line? (index : LineIndex) (number : Nat) (text : Text) : Option Line :=
  (index.lineSpan? number text).bind fun span =>
    (span.slice? text).map fun part => ⟨number, span.start.toNat, part⟩

/-- The lines that can be cut out of the text that the index was made from. -/
def readLines (index : LineIndex) (text : Text) : List Line :=
  (List.range index.lineCount).filterMap fun number => index.line? number text

end LineIndex

end StyleAudit
