import StyleAudit.Locate.Placement
import StyleAudit.Page

/-!
# Analysis of a source

A source is normalised to markup, read as a page, and the text of the page's first style
element is checked against it.

- `Checks.analyzeWith`: the findings of a source, for any way to read pages.
- `Checks.analyze`: the findings of a source.
- `Locate.outcomeDiagnostics`: what is said about a source, located in it.
-/

namespace StyleAudit

namespace Checks

/-- The findings of a source, or the first failure: of the template, of the markup, of the
style text, or of a selector. -/
def analyzeWith (read : PageReader) (checks : Checks) (source : Text) : Except Failure Findings :=
  match Template.normalize source with
  | .error cause => .error (.template cause)
  | .ok markup =>
    match read markup with
    | .error failure => .error failure
    | .ok page =>
      match page.style? with
      | none => .error .missingStyle
      | some style =>
        match Css.parse style with
        | .error error => .error (.ofParseError error style)
        | .ok sheet => (checks.run page.document sheet).1.mapError Failure.selector

/-- The findings of a source. -/
def analyze (checks : Checks) (source : Text) : Except Failure Findings :=
  checks.analyzeWith Page.ofMarkup source

end Checks

namespace Locate

/-- What is said about a source after its analysis: its findings, or its failure. -/
def outcomeDiagnostics (source : Text) : Except Failure Findings → List Diagnostic
  | .ok findings => diagnostics source findings
  | .error failure => [failureDiagnostic source failure]

end Locate

end StyleAudit
