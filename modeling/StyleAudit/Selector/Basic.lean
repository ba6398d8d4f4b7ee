import StyleAudit.Selector.Token

/-!
# Selectors

- `AttributeTest`, `Nth`: tests on one attribute, and on an element's place among its
  siblings.
- `Simple`: the tests that make up a selector.
- `Complex`: groups of tests joined by combinators; `Relative`: the same, seen from the
  element that a `:has()` test is about.
-/

namespace StyleAudit.Selector

/-- How the element of the next group is found from that of the group before. -/
inductive Combinator where
  | descendant | child | nextSibling | laterSibling
  deriving DecidableEq, Repr

/-- How an attribute's value is compared. -/
inductive Comparison where
  | equal | word | dash | start | ending | part
  deriving DecidableEq, Repr

/-- Whether capitals matter in an attribute's value. -/
inductive Casing where
  /-- By the attribute's name. -/
  | byName
  | exact
  | ignore
  deriving DecidableEq, Repr

/-- A test of an attribute: in any namespace or in none, by name, and by value if there is
one. -/
structure AttributeTest where
  anySpace : Bool
  name : Text
  value : Option (Comparison × Text × Casing)
  deriving DecidableEq, Repr

/-- A place among siblings: some `step * k + offset` with `k ≥ 0`, counted from the start or
from the end, among all siblings or among those of the same name. -/
structure Nth where
  step : Int
  offset : Int
  fromEnd : Bool
  ofType : Bool
  deriving DecidableEq, Repr

mutual

/-- One test of an element. -/
inductive Simple where
  | tag (name : Text)
  | any
  | id (name : Text)
  | className (name : Text)
  | attribute (test : AttributeTest)
  | nth (place : Nth)
  | root
  | empty
  | not (alternatives : List Complex)
  | oneOf (alternatives : List Complex)
  | has (alternatives : List Relative)
  /-- A test that no element of a page passes. -/
  | never

/-- Groups of tests joined by combinators. -/
inductive Complex where
  | group (tests : List Simple)
  | join (left : Complex) (combinator : Combinator) (tests : List Simple)

/-- Groups of tests, each found from the one before, starting at a given element. -/
inductive Relative where
  | here
  | step (combinator : Combinator) (tests : List Simple) (rest : Relative)

end

/-- Groups of tests with the combinator before each. -/
abbrev Steps := List (Combinator × List Simple)

/-- The groups as a selector; the first combinator says nothing. -/
def Complex.ofSteps : Steps → Complex
  | [] => .group [.never]
  | (_, tests) :: rest =>
    rest.foldl (fun left (combinator, tests) => .join left combinator tests) (.group tests)

/-- The groups as a selector that is seen from an element. -/
def Relative.ofSteps (steps : Steps) : Relative :=
  steps.foldr (fun (combinator, tests) rest => .step combinator tests rest) .here

end StyleAudit.Selector
