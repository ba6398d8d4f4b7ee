import StyleAudit.Source.Line

/-!
# The style region

Analysis runs on normalised markup, so findings are searched again on the lines of
the first style element of the source as written.

- `Region`: those lines, and the anchor for what is not found on them.
- `Region.ofSource`: from the first line with `<style` through the first line after
  it, or it itself, with `</style`.
- `Region.find?`: the first line from a given one on that holds a text.
-/

namespace StyleAudit.Locate

/-- What opens a style element. -/
def styleOpen : Text := "<style".toList

/-- What closes a style element. -/
def styleClose : Text := "</style".toList

/-- The lines of the first style element, and where it opens. -/
structure Region where
  lines : List Line
  anchor : Span

/-- The lines through the first one that closes a style element. -/
def throughClose : List Line → List Line
  | [] => []
  | line :: rest =>
    if Text.contains styleClose line.text then [line] else line :: throughClose rest

namespace Region

/-- The region of a list of lines. -/
def ofLines (lines : List Line) : Region :=
  let fromOpen := lines.dropWhile fun line => !Text.contains styleOpen line.text
  { lines := throughClose fromOpen
    anchor :=
      match fromOpen.head? with
      | some line => line.spanAt ((Text.offsetOf? styleOpen line.text).getD 0) styleOpen.bytes
      | none => Span.origin }

/-- The region of a source. -/
def ofSource (source : Text) : Region := ofLines (LineIndex.ofText source).lines

/-- The first line with `part` and its span there, counting lines from `position`. -/
def findFrom (part : Text) (position : Nat) : List Line → Option (Nat × Span)
  | [] => none
  | line :: rest =>
    match Text.offsetOf? part line.text with
    | some column => some (position, line.spanAt column part.bytes)
    | none => findFrom part (position + 1) rest

/-- The first region line at or after a position that holds a non-empty text,
and the span of the text there. -/
def find? (region : Region) (part : Text) (position : Nat) : Option (Nat × Span) :=
  if part.isEmpty then none else findFrom part position (region.lines.drop position)

/-- The first place of a text in the region, the anchor if there is none. -/
def locate (region : Region) (part : Text) : Span :=
  ((region.find? part 0).map Prod.snd).getD region.anchor

end Region

end StyleAudit.Locate
