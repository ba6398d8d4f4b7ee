import StyleAudit.Usage
import StyleAudit.Override

/-!
# Findings

- `Findings`: what the checks of one stylesheet found.
- `Checks`: which checks run, and how selectors are stripped.
- `Checks.run`: the enabled checks on a stylesheet and a document.
-/

namespace StyleAudit

/-- Everything found in one stylesheet, in stylesheet order. -/
structure Findings where
  unused : List Unused
  overwritten : List Overwritten
  deriving DecidableEq, Repr

namespace Findings

/-- Whether nothing was found. -/
def isClean (findings : Findings) : Bool := findings.unused.isEmpty && findings.overwritten.isEmpty

/-- How many findings there are. -/
def count (findings : Findings) : Nat := findings.unused.length + findings.overwritten.length

end Findings

/-- Which checks run, and the table that strips selectors. -/
structure Checks where
  unused : Bool
  overwritten : Bool
  table : PseudoTable

namespace Checks

/-- Both checks with the standard table. -/
def default : Checks := ⟨true, true, .standard⟩

/-- The same checks with more tokens to strip. -/
def withExtra (checks : Checks) (texts : List Text) : Checks :=
  { checks with table := checks.table.withExtra texts }

/-- Run the enabled checks. Each has a memory of its own; the queries of the second
follow those of the first, and a rejection by the first ends the run. -/
def run (checks : Checks) (document : Document) (sheet : Css.Stylesheet) :
    Except Rejection Findings × List Text :=
  let first :=
    if checks.unused then (findUnused document checks.table sheet).record else (.ok [], [])
  match first with
  | (.error rejection, queries) => (.error rejection, queries)
  | (.ok unused, queries) =>
    let second :=
      if checks.overwritten then (findOverwritten document checks.table sheet).record
      else (.ok [], [])
    match second with
    | (.error rejection, more) => (.error rejection, queries ++ more)
    | (.ok overwritten, more) => (.ok ⟨unused, overwritten⟩, queries ++ more)

end Checks

end StyleAudit
