import StyleAudit.Text.Basic

/-!
# Pseudo-class tables

A structural query never matches a state such as `:hover`, even when the element
exists, so known pseudo-classes and pseudo-elements are stripped from a selector
before it is looked up.

- `PseudoTable`: the standard tokens and the additions of a project.
- `PseudoTable.withExtra`: one addition of tokens.
- `PseudoTable.strip`: removes the tokens from a selector.

Entries with an argument are literal text: `:nth-child(n)` is a token, and
`:nth-child(2)` is looked up as written.
-/

namespace StyleAudit

/-- The tokens that are stripped from selectors: the standard ones, then these. -/
structure PseudoTable where
  extra : List Text
  deriving DecidableEq, Repr

namespace PseudoTable

/-- The tokens of every table. -/
def standardTokens : List Text :=
  [":active", ":after", ":before", ":checked", ":disabled", ":empty", ":enabled",
    ":first-child", ":first-letter", ":first-line", ":first-of-type", ":focus", ":hover",
    ":in-range", ":invalid", ":lang(language)", ":last-child", ":last-of-type", ":link",
    ":not(selector)", ":nth-child(n)", ":nth-last-child(n)", ":nth-last-of-type(n)",
    ":nth-of-type(n)", ":only-of-type", ":only-child", ":optional", ":out-of-range",
    ":read-only", ":read-write", ":required", ":root", ":target", ":valid",
    ":visited"].map String.toList

/-- The table without additions. -/
def standard : PseudoTable := ⟨[]⟩

/-- All tokens: the standard ones, then the additions. -/
def tokens (table : PseudoTable) : List Text := standardTokens ++ table.extra

/-- Whether the table holds exactly this token. -/
def contains (table : PseudoTable) (token : Text) : Bool := table.tokens.contains token

/-- A token starts with a colon; one that does not gets it. -/
def withColon : Text → Text
  | ':' :: rest => ':' :: rest
  | token => ':' :: token

/-- Add a token at the end, unless it is a lone colon or already there. -/
def add (table : PseudoTable) (text : Text) : PseudoTable :=
  let token := withColon text
  if 1 < token.bytes ∧ table.contains token = false then ⟨table.extra ++ [token]⟩ else table

/-- Add tokens in the order given. -/
def withExtra (table : PseudoTable) (texts : List Text) : PseudoTable := texts.foldl add table

/-- Whether an occurrence of `token` that is followed by `rest` belongs to a longer
name. -/
def isContinued (token rest : Text) : Bool :=
  token.getLast?.any Text.isNameChar && rest.head?.any Text.isNameChar

/-- Remove the occurrences of a non-empty `token`, from left to right, that do not
belong to a longer name; `skip` counts the characters of the last occurrence that
are still to be passed over. -/
def removeFrom (token : Text) : Nat → Text → Text
  | _, [] => []
  | skip + 1, _ :: cs => removeFrom token skip cs
  | 0, c :: cs =>
    match Text.dropLead? token (c :: cs) with
    | some rest =>
      (if isContinued token rest then token else []) ++ removeFrom token (token.length - 1) cs
    | none => c :: removeFrom token 0 cs

/-- Remove the occurrences of a token that do not belong to a longer name. -/
def remove (token text : Text) : Text := removeFrom token 0 text

/-- Remove a token in its form with two colons, then in its form with one. -/
def removeBoth (text token : Text) : Text :=
  if Text.contains token text then remove token (remove (':' :: token) text) else text

/-- The tokens from the longest to the shortest, ties in table order. -/
def byLength (table : PseudoTable) : List Text :=
  table.tokens.mergeSort fun a b => decide (b.bytes ≤ a.bytes)

/-- Strip a selector of the tokens of the table, longer tokens first. -/
def strip (table : PseudoTable) (selector : Text) : Text := table.byLength.foldl removeBoth selector

end PseudoTable

end StyleAudit
