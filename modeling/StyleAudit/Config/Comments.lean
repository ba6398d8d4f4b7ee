import StyleAudit.Text.Basic

/-!
# Comments in configuration texts

A configuration may hold comments from `//` to the end of the line and from `/*` to `*/`.
They are removed before the text is read as JSON; their line breaks stay, so that places
keep their lines.

- `stripComments`: the text without its comments.
-/

namespace StyleAudit.Config

/-- Where a reader of configuration text is. -/
inductive Zone where
  | code
  | quoted
  /-- After a backslash in a string. -/
  | escaped
  | lineComment
  | blockComment
  deriving DecidableEq, Repr

/-- The text without its comments, from a given zone on. -/
def stripFrom : Zone → Text → Text
  | _, [] => []
  | .code, '/' :: '/' :: cs => stripFrom .lineComment cs
  | .code, '/' :: '*' :: cs => stripFrom .blockComment cs
  | .code, c :: cs => c :: stripFrom (if c = '\x22' then .quoted else .code) cs
  | .quoted, c :: cs =>
    c :: stripFrom (if c = '\\' then .escaped else if c = '\x22' then .code else .quoted) cs
  | .escaped, c :: cs => c :: stripFrom .quoted cs
  | .lineComment, c :: cs => if c = '\n' then c :: stripFrom .code cs else stripFrom .lineComment cs
  | .blockComment, '*' :: '/' :: cs => stripFrom .code cs
  | .blockComment, c :: cs =>
    if c = '\n' then c :: stripFrom .blockComment cs else stripFrom .blockComment cs

/-- The text without its comments. -/
def stripComments (text : Text) : Text := stripFrom .code text

end StyleAudit.Config
