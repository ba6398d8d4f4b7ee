import StyleAudit.Text.Blank
import StyleAudit.PseudoTable

/-!
# Inquiries

Analysis knows a document only by its answers: does a selector match at least one
element? An inquiry puts such questions, remembers the answers by selector as
written, and keeps the list of the queries that were really put.

- `Document`: what answers queries.
- `Rejection`: a selector that a document cannot evaluate.
- `Inquiry`: the answers so far and the queries put so far.
- `Inquire`: a computation that may put queries and may be stopped by a rejection.
- `isUsed`: whether a selector matches anything, pseudo-classes stripped.
-/

namespace StyleAudit

/-- A document answers whether a query matches at least one of its elements, or
says why it cannot evaluate it. -/
structure Document where
  query : Text → Except Text Bool

/-- A selector, as written, that a document could not evaluate. -/
structure Rejection where
  selector : Text
  message : Text
  deriving DecidableEq, Repr

/-- What has been asked and answered. -/
structure Inquiry where
  /-- The answers by selector as written, the latest first. -/
  answers : List (Text × Bool)
  /-- The queries that were put, in order. -/
  queries : List Text
  deriving DecidableEq, Repr

/-- Nothing asked yet. -/
def Inquiry.empty : Inquiry := ⟨[], []⟩

/-- A computation that may put queries and may be stopped by a rejection. What was
asked before a rejection stays on record. -/
abbrev Inquire := ExceptT Rejection (StateM Inquiry)

/-- Run a computation from an empty inquiry: its outcome and the queries it put. -/
def Inquire.record {α : Type} (inquire : Inquire α) : Except Rejection α × List Text :=
  let (outcome, inquiry) := StateT.run (ExceptT.run inquire) Inquiry.empty
  (outcome, inquiry.queries)

/-- The query for a selector: its text without pseudo-classes and outer blanks, and
the universal selector if nothing is left. -/
def PseudoTable.queryFor (table : PseudoTable) (selector : Text) : Text :=
  match (table.strip selector).trim with
  | [] => ['*']
  | query => query

/-- Whether a selector matches anything. A selector that was asked about before is
answered from memory. -/
def isUsed (document : Document) (table : PseudoTable) (selector : Text) : Inquire Bool := do
  let inquiry ← get
  match inquiry.answers.lookup selector with
  | some used => pure used
  | none =>
    let query := table.queryFor selector
    modify fun i => { i with queries := i.queries ++ [query] }
    match document.query query with
    | .ok used =>
      modify fun i => { i with answers := (selector, used) :: i.answers }
      pure used
    | .error message => throw ⟨selector, message⟩

end StyleAudit
