import StyleAudit.Css.Stylesheet
import StyleAudit.Inquiry

/-!
# Overwritten declarations

A declaration is overwritten when a later rule in the same scope lists the same
selector and sets the same property. The top level is one scope and each media
block is its own. A declaration marked important is never overwritten.

- `Overwritten`: the selector and property, and the media block of both rules.
- `replacements`: the records of one selector of one rule.
- `findOverwritten`: all records, in stylesheet order.

Only selectors that match something are considered. There is one record per pair
of an earlier and a later declaration, and none are merged.
-/

namespace StyleAudit

open Css (Rule StyleRule Declaration Stylesheet styleRules)

/-- A property of a selector that a later rule in the same scope sets again. -/
structure Overwritten where
  selector : Text
  property : Text
  media : Option Text
  deriving DecidableEq, Repr

/-- The records for one selector of `rule`, given the rules after it in its scope. -/
def replacements (media : Option Text) (rule : StyleRule) (later : List Rule) (selector : Text) :
    List Overwritten :=
  ((styleRules later).filter fun other => other.hasSelector selector).flatMap fun other =>
    (rule.declarations.filter fun earlier => !earlier.isImportant).flatMap fun earlier =>
      (other.declarations.filter fun replacement => earlier.property == replacement.property).map
        fun _ => ⟨selector, earlier.property, media⟩

variable (document : Document) (table : PseudoTable)

/-- The records for the selectors of a group. -/
def overwrittenAmong (media : Option Text) (rule : StyleRule) (later : List Rule) :
    List Text → Inquire (List Overwritten)
  | [] => pure []
  | selector :: rest => do
    let used ← isUsed document table selector
    let others ← overwrittenAmong media rule later rest
    pure (if used then replacements media rule later selector ++ others else others)

/-- The records of one scope: each style rule against the rules after it. -/
def overwrittenUnder (media : Option Text) : List Rule → Inquire (List Overwritten)
  | [] => pure []
  | .style rule :: later => do
    let here ← overwrittenAmong document table media rule later rule.selectors
    let others ← overwrittenUnder media later
    pure (here ++ others)
  | _ :: later => overwrittenUnder media later

/-- The records of the top level, those of a media block at its place. -/
def overwrittenIn : List Rule → Inquire (List Overwritten)
  | [] => pure []
  | .style rule :: later => do
    let here ← overwrittenAmong document table none rule later rule.selectors
    let others ← overwrittenIn later
    pure (here ++ others)
  | .media condition rules _ :: later => do
    let here ← overwrittenUnder document table (some condition) rules
    let others ← overwrittenIn later
    pure (here ++ others)
  | .atRule .. :: later => overwrittenIn later

/-- Every overwritten declaration of a stylesheet, in order. -/
def findOverwritten (sheet : Stylesheet) : Inquire (List Overwritten) :=
  overwrittenIn document table sheet.rules

end StyleAudit
