import StyleAudit.Css.Stylesheet
import StyleAudit.Inquiry

/-!
# Unused selectors

- `Unused`: a selector that matches no element, and the media block it stands in.
- `findUnused`: every occurrence of such a selector, in stylesheet order.

Rules directly inside a media block are visited at the block's place; blocks
nested deeper are not visited.
-/

namespace StyleAudit

open Css (Rule StyleRule Stylesheet styleRules)

/-- A selector, as written, that matches no element; `media` is the condition of
the block that holds its rule. -/
structure Unused where
  selector : Text
  media : Option Text
  deriving DecidableEq, Repr

variable (document : Document) (table : PseudoTable)

/-- The unused selectors of a group. -/
def unusedAmong (media : Option Text) : List Text → Inquire (List Unused)
  | [] => pure []
  | selector :: rest => do
    let used ← isUsed document table selector
    let others ← unusedAmong media rest
    pure (if used then others else ⟨selector, media⟩ :: others)

/-- The unused selectors of style rules in one scope. -/
def unusedUnder (media : Option Text) : List StyleRule → Inquire (List Unused)
  | [] => pure []
  | rule :: rest => do
    let here ← unusedAmong document table media rule.selectors
    let others ← unusedUnder media rest
    pure (here ++ others)

/-- The unused selectors of a list of top-level rules. -/
def unusedIn : List Rule → Inquire (List Unused)
  | [] => pure []
  | .style rule :: rest => do
    let here ← unusedAmong document table none rule.selectors
    let others ← unusedIn rest
    pure (here ++ others)
  | .media condition rules _ :: rest => do
    let here ← unusedUnder document table (some condition) (styleRules rules)
    let others ← unusedIn rest
    pure (here ++ others)
  | .atRule .. :: rest => unusedIn rest

/-- Every selector occurrence of a stylesheet that matches nothing, in order. -/
def findUnused (sheet : Stylesheet) : Inquire (List Unused) := unusedIn document table sheet.rules

end StyleAudit
