import StyleAudit.Analysis
import StyleAudit.Arguments
import StyleAudit.Check
import StyleAudit.Config
import StyleAudit.Config.Comments
import StyleAudit.Css.Parser
import StyleAudit.Css.Stylesheet
import StyleAudit.Css.Token
import StyleAudit.Diagnostic
import StyleAudit.Failure
import StyleAudit.FileTree
import StyleAudit.Findings
import StyleAudit.Glob
import StyleAudit.Glob.Set
import StyleAudit.Inquiry
import StyleAudit.Json.Fault
import StyleAudit.Json.Reader
import StyleAudit.Json.Value
import StyleAudit.Locate.DeclarationLine
import StyleAudit.Locate.Placement
import StyleAudit.Locate.Region
import StyleAudit.Main
import StyleAudit.Markup.Adoption
import StyleAudit.Markup.Builder
import StyleAudit.Markup.NamedCharacter
import StyleAudit.Markup.Node
import StyleAudit.Markup.Page
import StyleAudit.Markup.Reference
import StyleAudit.Markup.Rules.Body
import StyleAudit.Markup.Rules.Foreign
import StyleAudit.Markup.Rules.Head
import StyleAudit.Markup.Rules.Table
import StyleAudit.Markup.Store
import StyleAudit.Markup.Token
import StyleAudit.Override
import StyleAudit.Page
import StyleAudit.Path
import StyleAudit.Proofs.Css.Coverage
import StyleAudit.Proofs.Css.Derivation
import StyleAudit.Proofs.Css.Fidelity
import StyleAudit.Proofs.Css.Grammar
import StyleAudit.Proofs.Css.Reading
import StyleAudit.Proofs.Css.Relocation
import StyleAudit.Proofs.Css.Rendering
import StyleAudit.Proofs.Css.RoundTrip
import StyleAudit.Proofs.Css.Seam
import StyleAudit.Proofs.Css.Stretch
import StyleAudit.Proofs.Findings
import StyleAudit.Proofs.Inquiry
import StyleAudit.Proofs.Override
import StyleAudit.Proofs.Text
import StyleAudit.Proofs.Usage
import StyleAudit.PseudoTable
import StyleAudit.Report
import StyleAudit.Run
import StyleAudit.Selector.Basic
import StyleAudit.Selector.Fault
import StyleAudit.Selector.Match
import StyleAudit.Selector.Parser
import StyleAudit.Selector.Token
import StyleAudit.Source.Line
import StyleAudit.Source.Span
import StyleAudit.Template
import StyleAudit.Text.Alphanumeric
import StyleAudit.Text.Basic
import StyleAudit.Text.Blank
import StyleAudit.Text.CharSet
import StyleAudit.Text.Decimal
import StyleAudit.Text.Quoted
import StyleAudit.Usage
import StyleAudit.Proofs.Css.Comment
import StyleAudit.Proofs.Css.Concatenation
import StyleAudit.Proofs.Css.Patterns
import StyleAudit.Proofs.Css.Tiling
import StyleAudit.Proofs.Css.BrokenTokens
import StyleAudit.Proofs.Substitution
import StyleAudit.Proofs.Template.Removal
import StyleAudit.Proofs.Template.Layout
import StyleAudit.Proofs.Locate.Order
import StyleAudit.Proofs.Source
import StyleAudit.Proofs.Locate.Exactness
import StyleAudit.Proofs.Css.Characters
import StyleAudit.Proofs.OneLine
import StyleAudit.Proofs.Report.MachineLines
import StyleAudit.Proofs.Report.Formats
import StyleAudit.Proofs.Balance
import StyleAudit.Proofs.Css.Nesting
import StyleAudit.Proofs.Template.Parentheses
import StyleAudit.Proofs.PseudoTable.Removal
import StyleAudit.Proofs.PseudoTable.Erasure
import StyleAudit.Proofs.PseudoTable.Stability
import StyleAudit.Proofs.Template.HostCalls
import StyleAudit.Proofs.PseudoTable.Extent
import StyleAudit.Proofs.PseudoTable.Combinators
import StyleAudit.Proofs.Locate.Turns
import StyleAudit.Proofs.Locate.Headers
import StyleAudit.Proofs.Css.Refusal
import StyleAudit.Proofs.Excerpt
import StyleAudit.Proofs.Config.Segments
import StyleAudit.Proofs.Locate.FlaggedLines
import StyleAudit.Proofs.Locate.Preamble
import StyleAudit.Proofs.Locate.Unterminated
import StyleAudit.Proofs.Config.Idempotence
import StyleAudit.Proofs.Source.Positions
import StyleAudit.Proofs.Source.Lines
import StyleAudit.Proofs.Report.Caret
import StyleAudit.Proofs.PseudoTable.Additions
import StyleAudit.Proofs.Locate.PropertyNames
