import StyleAudit.Template
import StyleAudit.Inquiry
import StyleAudit.Css.Parser

/-!
# Failures

What can stop a source from being analysed. There is no partial result beside a
failure.

- `Failure`, `Failure.message`: the causes and their wording.
- `snippetAt`: the excerpt of a stylesheet that a parse error is shown with.
- `Failure.offending?`: the text that a failure is attributed to.
-/

namespace StyleAudit

/-- What stopped the analysis of a source. -/
inductive Failure where
  /-- A script, comment or mixin was opened and never closed. -/
  | template (cause : Template.Unterminated)
  /-- The normalised markup yields no document. -/
  | markup (message : Text)
  /-- The document has no style element. -/
  | missingStyle
  /-- The style text is no stylesheet; `snippet` is the text in question. -/
  | stylesheet (error : Css.ParseError) (snippet : Text)
  /-- The document rejected a selector. -/
  | selector (rejection : Rejection)
  deriving DecidableEq, Repr

namespace Failure

/-- The wording of a failure. -/
def message : Failure → Text
  | template cause =>
    "malformed template: unterminated ".toList ++ cause.construct.name ++
      " starting at '".toList ++ cause.opening ++ "' (expected '".toList ++ cause.expected ++
      "')".toList
  | markup message => "could not parse markup: ".toList ++ message
  | missingStyle => "no <style> element found".toList
  | stylesheet error snippet =>
    "could not parse stylesheet: ".toList ++ error.cause.message ++ " near '".toList ++ snippet ++
      "'".toList
  | selector rejection =>
    "selector '".toList ++ rejection.selector ++ "' could not be evaluated: ".toList ++
      rejection.message

/-- The source text that a failure is attributed to. -/
def offending? : Failure → Option Text
  | template cause => some cause.opening
  | stylesheet _ snippet => if snippet.isEmpty then none else some snippet
  | selector rejection => some rejection.selector
  | _ => none

end Failure

/-! ## Excerpts -/

/-- The longest excerpt, in characters. -/
def snippetLength : Nat := 60

/-- The byte after the last closing brace or semicolon, 0 if there is none. -/
def statementStart (text : Text) : Nat :=
  Text.bytes (text.reverse.dropWhile fun c => !(c == '}' || c == ';')).reverse

/-- The piece after the last line feed. -/
def lastPiece (text : Text) : Text := (text.reverse.takeWhile (· != '\n')).reverse

/-- The statement that a span points at: from the end of the statement before it up
to the end of the span. If nothing but blanks is there, the last line before the
end of the span. -/
def statementAt (span : Span) (style : Text) : Text :=
  let start := min span.start.toNat style.bytes
  let stop := min (max span.stop.toNat start) style.bytes
  let origin := ((style.takeBytes? start).map statementStart).getD 0
  let statement := ((style.slice? origin stop).map Text.trim).getD []
  if statement.isEmpty then ((style.takeBytes? stop).map fun text => lastPiece text.trimEnd).getD []
  else statement

/-- The excerpt of a stylesheet at a span: the first line of the statement there,
cut after 60 characters. -/
def snippetAt (span : Span) (style : Text) : Text :=
  ((statementAt span style).trim.lines.head?.getD []).take snippetLength

/-- A parse error with the text that it points at. -/
def Failure.ofParseError (error : Css.ParseError) (style : Text) : Failure :=
  .stylesheet error (snippetAt error.span style)

end StyleAudit
