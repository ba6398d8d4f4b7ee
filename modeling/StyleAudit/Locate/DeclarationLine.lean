import StyleAudit.Diagnostic
import StyleAudit.Locate.Region

/-!
# Declaration lines

Inside a rule of the first style element, a line should read as a declaration with
its semicolon. This check looks at the source as written, line by line, whether or
not the source can be analysed.

- `isDeclarationLine`: some text, a colon, some more text, a semicolon.
- `LineState`: where a line stands, and how it changes from line to line.
- `lineDiagnostics`: a diagnostic for each line inside a rule that is no declaration.

Blank lines, lines with an opening brace or an at-sign and lines in comments are
passed over.
-/

namespace StyleAudit.Locate

/-- Some text, a colon, some more text, then a semicolon. -/
def isDeclarationLine (text : Text) : Bool :=
  match (text.drop 1).dropWhile (· != ':') with
  | [] => false
  | _ :: rest => (rest.drop 1).contains ';'

/-- Where a line stands. -/
structure LineState where
  inStyle : Bool
  inRule : Bool
  inComment : Bool
  deriving DecidableEq, Repr

/-- The state at the start of a source. -/
def LineState.start : LineState := ⟨false, false, false⟩

/-- The state at a line, given the state before it. -/
def LineState.enter (state : LineState) (text : Text) : LineState where
  inStyle := state.inStyle || Text.contains styleOpen text
  inRule := state.inRule && !Text.contains ['}'] text
  inComment := state.inComment || Text.contains ['/', '*'] text

/-- The state after a line, given the state at it. -/
def LineState.leave (state : LineState) (text : Text) : LineState where
  inStyle := state.inStyle
  inRule := if Text.contains ['{'] text then !Text.contains ['}'] text else state.inRule
  inComment := state.inComment && !Text.contains ['*', '/'] text

/-- Whether a line at a state should be a declaration and is not. -/
def isFlagged (state : LineState) (text : Text) : Bool :=
  state.inStyle && state.inRule && !state.inComment && !text.trim.isEmpty &&
    !Text.contains ['{'] text && !Text.contains ['@'] text && !isDeclarationLine text

/-- The diagnostic for a line. -/
def lineDiagnostic (line : Line) : Diagnostic :=
  .ofCode .declarationLine
    ("Expected 'property: value;' but found '".toList ++ line.text.trim ++ "'".toList)
    (line.spanAt (line.text.bytes - line.text.trimStart.bytes) line.text.trim.bytes)

/-- The diagnostics of lines, given the state before the first; the line that closes
the style element ends the check. -/
def lineDiagnosticsFrom (state : LineState) : List Line → List Diagnostic
  | [] => []
  | line :: rest =>
    if Text.contains styleClose line.text then []
    else
      let here := state.enter line.text
      let others := lineDiagnosticsFrom (here.leave line.text) rest
      if isFlagged here line.text then lineDiagnostic line :: others else others

/-- The diagnostics for the lines of a source that are no declarations. -/
def lineDiagnostics (source : Text) : List Diagnostic :=
  lineDiagnosticsFrom .start (LineIndex.ofText source).lines

end StyleAudit.Locate
