import StyleAudit.Source.Span

/-!
# Stylesheets

The tree of rules that analysis works on.

- `Declaration`: a property and its value.
- `StyleRule`: a group of selectors with its declarations.
- `Rule`: a style rule, a media block, or any other at-rule (kept, but not looked into).
- `Stylesheet`: the top-level rules in source order.
-/

namespace StyleAudit.Css

/-- A `property: value` pair. -/
structure Declaration where
  /-- The property name, as written. -/
  property : Text
  /-- The value, including any `!important`. -/
  value : Text
  /-- From the property to the terminating semicolon, or to the end of the value. -/
  span : Span
  deriving DecidableEq, Repr

/-- Whether the value carries the `!important` marker. -/
def Declaration.isImportant (declaration : Declaration) : Bool :=
  Text.contains "!important".toList declaration.value

/-- A rule with a selector group and a declaration block. -/
structure StyleRule where
  /-- The selectors of the group, as written. -/
  selectors : List Text
  /-- The declarations in source order. -/
  declarations : List Declaration
  /-- From the first selector to the closing brace. -/
  span : Span
  deriving DecidableEq, Repr

/-- Whether the group lists exactly this selector text. -/
def StyleRule.hasSelector (rule : StyleRule) (selector : Text) : Bool :=
  rule.selectors.contains selector

/-- A rule at the top level or inside a media block. -/
inductive Rule where
  /-- A selector group with declarations. -/
  | style (rule : StyleRule)
  /-- A media block with the rules inside it. -/
  | media (condition : Text) (rules : List Rule) (span : Span)
  /-- Any other at-rule: its name, what precedes its end or block, and whether it has a block. -/
  | atRule (name preface : Text) (hasBlock : Bool) (span : Span)
  deriving Repr

namespace Rule

/-- The span of the whole rule. -/
def span : Rule → Span
  | style rule => rule.span
  | media _ _ span => span
  | atRule _ _ _ span => span

/-- The style rule, if this is one. -/
def style? : Rule → Option StyleRule
  | style rule => some rule
  | _ => none

end Rule

/-- The style rules directly in a list of rules. -/
def styleRules (rules : List Rule) : List StyleRule := rules.filterMap Rule.style?

/-- A stylesheet: its top-level rules in source order. -/
structure Stylesheet where
  rules : List Rule
  deriving Repr

end StyleAudit.Css
