import StyleAudit.Markup.Node
import StyleAudit.Selector.Parser

/-!
# Matching

- `Site`: an element with what is around it on its page.
- `sites`: the elements of a page in the order in which they were made.
- `Complex.matches`: whether a selector matches at a site.

The content of a template stands in a fragment, which has no parent element: its elements
are on the page, but not below the template. An element that was taken out of the page is no
longer on it, but what stands below that element is.
-/

namespace StyleAudit.Selector

open Markup (Node Forest Name Space Attribute)

/-- An element with its number and what is around it: its siblings on both sides, the nearest
first, and its parent element. -/
inductive Site where
  | mk (number : Nat) (name : Name) (attributes : List Attribute) (children : List Node)
      (before after : List Node) (parent : Option Site) (isRoot : Bool)

namespace Site

/-- The number of the element. -/
def number : Site → Nat
  | mk number .. => number

/-- The name of the element. -/
def name : Site → Name
  | mk _ name .. => name

/-- The attributes of the element. -/
def attributes : Site → List Attribute
  | mk _ _ attributes .. => attributes

/-- The nodes below the element. -/
def children : Site → List Node
  | mk _ _ _ children .. => children

/-- The siblings before the element, the nearest first. -/
def before : Site → List Node
  | mk _ _ _ _ before .. => before

/-- The siblings after the element. -/
def after : Site → List Node
  | mk _ _ _ _ _ after .. => after

/-- The parent element. -/
def parent? : Site → Option Site
  | mk _ _ _ _ _ _ parent _ => parent

/-- Whether the element is the root of the page. -/
def isRoot : Site → Bool
  | mk _ _ _ _ _ _ _ isRoot => isRoot

/-- The element itself. -/
def node : Site → Node
  | mk number name attributes children .. => .element number name attributes children

/-- The elements of a row of siblings, the nearest first, seen from the nodes `behind`. The
row goes back to the first sibling or on to the last. -/
def inRow (backward : Bool) (parent : Option Site) (isRoot : Bool) : List Node → List Node → List Site
  | .element number name attributes children :: more, behind =>
    mk number name attributes children (if backward then more else behind)
        (if backward then behind else more) parent isRoot ::
      inRow backward parent isRoot more (.element number name attributes children :: behind)
  | node :: more, behind => inRow backward parent isRoot more (node :: behind)
  | [], _ => []

/-- The sibling elements before this one, the nearest first. -/
def earlier (site : Site) : List Site :=
  inRow true site.parent? site.isRoot site.before (site.node :: site.after)

/-- The sibling elements after this one, the nearest first. -/
def later (site : Site) : List Site :=
  inRow false site.parent? site.isRoot site.after (site.node :: site.before)

/-- The ancestors of an element, the nearest first. -/
def ancestors : Site → List Site
  | mk _ _ _ _ _ _ none _ => []
  | mk _ _ _ _ _ _ (some parent) _ => parent :: parent.ancestors

mutual

/-- The elements of a node in document order, those in templates included if `templates` is
true. -/
def ofNode (templates : Bool) (before after : List Node) (parent : Option Site) (isRoot : Bool) :
    Node → List Site
  | .element number name attributes children =>
    let site := mk number name attributes children before after parent isRoot
    site :: ofNodes templates (some site) false [] children
  | .text _ => []
  | .fragment children => if templates then ofNodes templates none false [] children else []

/-- The elements of sibling nodes in document order. -/
def ofNodes (templates : Bool) (parent : Option Site) (isRoot : Bool) (before : List Node) :
    List Node → List Site
  | [] => []
  | node :: after =>
    ofNode templates before after parent isRoot node ++
      ofNodes templates parent isRoot (node :: before) after

end

/-- The child elements. -/
def childSites (site : Site) : List Site := inRow false (some site) false site.children []

/-- The elements below this one, in document order. -/
def descendants (site : Site) : List Site := ofNodes false (some site) false [] site.children

/-- The elements that a combinator leads to, seen from the group on its right. -/
def back (site : Site) : Combinator → List Site
  | .descendant => site.ancestors
  | .child => site.parent?.toList
  | .nextSibling => site.earlier.take 1
  | .laterSibling => site.earlier

/-- The elements that a combinator leads to, seen from the group on its left. -/
def forth (site : Site) : Combinator → List Site
  | .descendant => site.descendants
  | .child => site.childSites
  | .nextSibling => site.later.take 1
  | .laterSibling => site.later

end Site

/-- The elements below a node that was taken out of the page. -/
def Site.belowLoose (node : Node) : List Site :=
  match node with
  | .element .. => (Site.ofNode true [] [] none false node).drop 1
  | _ => Site.ofNode true [] [] none false node

/-- The elements of a page in the order in which they were made. -/
def sites (forest : Forest) : List Site :=
  (Site.ofNodes true none true [] forest.page ++ forest.loose.flatMap Site.belowLoose).mergeSort
    fun a b => decide (a.number ≤ b.number)

/-! ## Simple tests -/

/-- Attributes of HTML whose values ignore capitals. -/
def caselessAttributes : List String :=
  ["accept", "accept-charset", "align", "alink", "axis", "bgcolor", "charset", "checked",
    "clear", "codetype", "color", "compact", "declare", "defer", "dir", "direction", "disabled",
    "enctype", "face", "frame", "hreflang", "http-equiv", "lang", "language", "link", "media",
    "method", "multiple", "nohref", "noresize", "noshade", "nowrap", "readonly", "rel", "rev",
    "rules", "scope", "scrolling", "selected", "shape", "target", "text", "type", "valign",
    "valuetype", "vlink"]

/-- A name as it is compared: names of HTML ignore capitals. -/
def Site.spelled (site : Site) (name : Text) : Text :=
  if site.name.space == .html then Text.lower name else name

/-- The value of an attribute of a given name. -/
def Site.value? (site : Site) (name : String) : Option Text :=
  (site.attributes.find? fun a => a.name == name).map Attribute.value

/-- Whether a value passes a comparison. -/
def Comparison.holds (value wanted : Text) : Comparison → Bool
  | .equal => value == wanted
  | .word => (Text.listed value).contains wanted
  | .dash => value == wanted || Text.startsWith (wanted ++ ['-']) value
  | .start => !wanted.isEmpty && Text.startsWith wanted value
  | .ending => !wanted.isEmpty && Text.endsWith wanted value
  | .part => !wanted.isEmpty && Text.contains wanted value

/-- Whether capitals of an attribute's value are ignored. -/
def AttributeTest.ignoresCase (test : AttributeTest) (site : Site) : Casing → Bool
  | .ignore => true
  | .exact => false
  | .byName =>
    !test.anySpace && site.name.space == .html &&
      caselessAttributes.contains (String.ofList (Text.lower test.name))

/-- Whether an attribute test passes. -/
def AttributeTest.passes (test : AttributeTest) (site : Site) : Bool :=
  let name := String.ofList (site.spelled test.name)
  site.attributes.any fun a =>
    (test.anySpace || a.space.isEmpty) && a.name == name &&
      match test.value with
      | none => true
      | some (comparison, wanted, casing) =>
        if test.ignoresCase site casing then comparison.holds (Text.lower a.value) (Text.lower wanted)
        else comparison.holds a.value wanted

/-- Whether a node is an element of a given name. -/
def isNamed (name : Name) : Node → Bool
  | .element _ other _ _ => other == name
  | _ => false

/-- The place of an element among its siblings, from 1 on. -/
def Nth.index (nth : Nth) (site : Site) : Nat :=
  let siblings := if nth.fromEnd then site.after else site.before
  siblings.countP (if nth.ofType then isNamed site.name else Node.isElement) + 1

/-- Whether a place is `step * k + offset` for some `k ≥ 0`; distances beyond 32 bits do not
count. -/
def Nth.passes (nth : Nth) (site : Site) : Bool :=
  let distance : Int := nth.index site - nth.offset
  distance ≤ 2147483647 &&
    if nth.step = 0 then distance == 0
    else distance % nth.step == 0 && Int.tdiv distance nth.step ≥ 0

/-- Whether an element has no elements and no texts. -/
def Site.isEmpty (site : Site) : Bool :=
  site.children.all fun child => !child.isElement && !child.isText

/-! ## Selectors -/

mutual

/-- Whether an element passes a test. -/
def Simple.passes : Simple → Site → Bool
  | .tag name, site => site.name.tag.toList == site.spelled name
  | .any, _ => true
  | .id name, site => site.value? "id" == some name
  | .className name, site =>
    (site.value? "class").any fun value => (Text.listed value).contains name
  | .attribute test, site => test.passes site
  | .nth place, site => place.passes site
  | .root, site => site.isRoot
  | .empty, site => site.isEmpty
  | .not alternatives, site => !Complex.anyMatches alternatives site
  | .oneOf alternatives, site => Complex.anyMatches alternatives site
  | .has alternatives, site => Relative.anyReaches alternatives site
  | .never, _ => false

/-- Whether an element passes all tests. -/
def Simple.allPass : List Simple → Site → Bool
  | [], _ => true
  | test :: rest, site => test.passes site && Simple.allPass rest site

/-- Whether a selector matches an element. -/
def Complex.matches : Complex → Site → Bool
  | .group tests, site => Simple.allPass tests site
  | .join left combinator tests, site =>
    Simple.allPass tests site && (site.back combinator).any fun other => left.matches other

/-- Whether one of the selectors matches an element. -/
def Complex.anyMatches : List Complex → Site → Bool
  | [], _ => false
  | selector :: rest, site => selector.matches site || Complex.anyMatches rest site

/-- Whether a relative selector leads from an element to some other. -/
def Relative.reaches : Relative → Site → Bool
  | .here, _ => true
  | .step combinator tests rest, site =>
    (site.forth combinator).any fun other => Simple.allPass tests other && rest.reaches other

/-- Whether one of the relative selectors leads from an element to some other. -/
def Relative.anyReaches : List Relative → Site → Bool
  | [], _ => false
  | selector :: rest, site => selector.reaches site || Relative.anyReaches rest site

end

/-- Whether some element of a page is matched. -/
def matchesAny (selectors : List Complex) (page : List Site) : Bool :=
  page.any fun site => Complex.anyMatches selectors site

end StyleAudit.Selector
