import StyleAudit.Text.Basic

/-!
# Spans

A span is a half-open range of byte offsets. Offsets are 32-bit words;
`Span.ofOffsets` keeps the low 32 bits of each number it is given.
-/

namespace StyleAudit

/-- A half-open range of byte offsets into a text. -/
structure Span where
  /-- The first byte. -/
  start : UInt32
  /-- The byte after the last one. -/
  stop : UInt32
  deriving DecidableEq, Repr, Inhabited

namespace Span

/-- The span between two offsets, each reduced to 32 bits. -/
def ofOffsets (start stop : Nat) : Span := ⟨start.toUInt32, stop.toUInt32⟩

/-- The span of width zero at an offset. -/
def emptyAt (offset : UInt32) : Span := ⟨offset, offset⟩

/-- The span of width zero at the start of a text. -/
def origin : Span := emptyAt 0

/-- Whether a span covers nothing. -/
def isEmpty (span : Span) : Bool := decide (span.stop ≤ span.start)

/-- The text that a span covers: none if it is reversed, past the end or cuts a
character. -/
def slice? (span : Span) (text : Text) : Option Text :=
  text.slice? span.start.toNat span.stop.toNat

end Span

end StyleAudit
