import StyleAudit.Source.Span

/-!
# Diagnostics

- `Severity`: warnings for findings, errors for sources that could not be analysed.
- `Code`: the kinds of diagnostics, with `Code.name` and `Code.severity`.
- `Diagnostic`: a message with its code, severity and place in the source.
-/

namespace StyleAudit

/-- How grave a diagnostic is. -/
inductive Severity where
  | warning | error
  deriving DecidableEq, Repr

/-- The kinds of diagnostics. -/
inductive Code where
  /-- A selector matches nothing in the markup. -/
  | unusedSelector
  /-- A declaration is replaced by a later rule. -/
  | overwrittenProperty
  /-- A line inside a rule is no declaration. -/
  | declarationLine
  /-- A selector could not be evaluated. -/
  | invalidSelector
  /-- The style text is no stylesheet. -/
  | stylesheetError
  /-- A script, comment or mixin is not closed. -/
  | templateError
  /-- The markup yields no document. -/
  | markupError
  /-- There is no style element. -/
  | missingStyle
  deriving DecidableEq, Repr

namespace Code

/-- The code as it is printed. -/
def name : Code → Text
  | unusedSelector => "css-unused-selector".toList
  | overwrittenProperty => "css-overwritten-property".toList
  | declarationLine => "css-syntax".toList
  | invalidSelector => "css-invalid-selector".toList
  | stylesheetError => "css-parse-error".toList
  | templateError => "template-error".toList
  | markupError => "markup-error".toList
  | missingStyle => "missing-style".toList

/-- Findings are warnings, failures are errors. -/
def severity : Code → Severity
  | unusedSelector | overwrittenProperty | declarationLine => .warning
  | invalidSelector | stylesheetError | templateError | markupError | missingStyle => .error

end Code

/-- A message about a source, with its place there. -/
structure Diagnostic where
  code : Code
  severity : Severity
  message : Text
  span : Span
  deriving DecidableEq, Repr

/-- A diagnostic with the severity of its code. -/
def Diagnostic.ofCode (code : Code) (message : Text) (span : Span) : Diagnostic :=
  ⟨code, code.severity, message, span⟩

/-- Diagnostics in the order in which they start; those that start together keep
their order. -/
def Diagnostic.sort (diagnostics : List Diagnostic) : List Diagnostic :=
  diagnostics.mergeSort fun a b => decide (a.span.start ≤ b.span.start)

end StyleAudit
