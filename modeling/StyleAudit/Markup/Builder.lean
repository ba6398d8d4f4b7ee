import StyleAudit.Markup.Store

/-!
# Building a page

Tags come in any order and often without their partners. A `Builder` holds what is known
while a page is read: the elements that are open, the formatting that is to be taken up
again, and the `Mode` that says which rules apply to the next token.

- `Builder`, `Build`: the state, and steps that change it.
- `Builder.inScope`: whether an open element can be reached by an end tag.
- `addElement`, `addText`: put something where the next thing belongs.
- `resumeFormatting`: open again the formatting elements that were cut off.
-/

namespace StyleAudit.Markup

/-- Which rules apply to the next token. -/
inductive Mode where
  | initial | beforeHtml | beforeHead | inHead | afterHead | inBody | rawText
  | inTable | inTableText | inCaption | inColumnGroup | inTableBody | inRow | inCell
  | inSelect | inSelectInTable | inTemplate | afterBody | inFrameset | afterFrameset
  | afterAfterBody | afterAfterFrameset
  deriving DecidableEq, Repr

/-- An entry of the list of formatting elements: a boundary, or an element and the tag that
made it. -/
inductive Formatting where
  | boundary
  | element (id : Nat) (tag : Tag)

/-- Everything known while a page is read. Lists have the innermost or latest entry first. -/
structure Builder where
  store : Store
  mode : Mode
  /-- The mode to return to after raw text or text of a table. -/
  returnMode : Mode
  templateModes : List Mode
  openIds : List Nat
  formatting : List Formatting
  head : Option Nat
  form : Option Nat
  /-- Whether a frameset may still replace the body. -/
  framesetAllowed : Bool
  /-- Whether misplaced content is put before the table that it stands in. -/
  fostering : Bool
  /-- Whether the page asks for the oldest layout rules. -/
  legacy : Bool
  /-- Whether a line feed is dropped if it comes next. -/
  skipLineFeed : Bool
  /-- Text of a table that is not yet placed. -/
  tableText : List Token
  lexing : Lexing

/-- The state before the first token. -/
def Builder.start : Builder where
  store := .start
  mode := .initial
  returnMode := .initial
  templateModes := []
  openIds := []
  formatting := []
  head := none
  form := none
  framesetAllowed := true
  fostering := false
  legacy := false
  skipLineFeed := false
  tableText := []
  lexing := .data

/-- A step of building. -/
abbrev Build := StateM Builder

/-- What became of a token: it is used up, or the current mode is to look at it again. -/
inductive Outcome where
  | done | again
  deriving DecidableEq, Repr

/-! ## Names -/

/-- Elements whose end tags other end tags do not reach over. -/
def specialTags : List String :=
  ["address", "applet", "area", "article", "aside", "base", "basefont", "bgsound", "blockquote",
    "body", "br", "button", "caption", "center", "col", "colgroup", "dd", "details", "dir", "div",
    "dl", "dt", "embed", "fieldset", "figcaption", "figure", "footer", "form", "frame", "frameset",
    "h1", "h2", "h3", "h4", "h5", "h6", "head", "header", "hgroup", "hr", "html", "iframe", "img",
    "input", "isindex", "li", "link", "listing", "main", "marquee", "menu", "meta", "nav",
    "noembed", "noframes", "noscript", "object", "ol", "p", "param", "plaintext", "pre", "script",
    "section", "select", "source", "style", "summary", "table", "tbody", "td", "template",
    "textarea", "tfoot", "th", "thead", "title", "tr", "track", "ul", "wbr", "xmp"]

/-- Formula elements that hold text. -/
def isFormulaText (name : Name) : Bool :=
  name.space == .math && ["mi", "mo", "mn", "ms", "mtext"].contains name.tag

/-- Drawing elements that hold markup. -/
def isDrawingMarkup (name : Name) : Bool :=
  name.space == .svg && ["foreignObject", "desc", "title"].contains name.tag

/-- Elements that end tags do not reach over. -/
def isSpecial (name : Name) : Bool := name.space == .html && specialTags.contains name.tag

/-- Elements that bound the search for an open element. -/
def endsScope (name : Name) : Bool :=
  (name.space == .html &&
      ["applet", "caption", "html", "table", "td", "th", "marquee", "object", "template"].contains
        name.tag) ||
    isFormulaText name || isDrawingMarkup name

/-- Bounds of the search for an open paragraph. -/
def endsButtonScope (name : Name) : Bool := endsScope name || name == ⟨.html, "button"⟩

/-- Bounds of the search for an open list item. -/
def endsListScope (name : Name) : Bool :=
  endsScope name || name == ⟨.html, "ol"⟩ || name == ⟨.html, "ul"⟩

/-- Bounds of the search for an open part of a table. -/
def endsTableScope (name : Name) : Bool :=
  name.space == .html && ["html", "table", "template"].contains name.tag

/-- Bounds of the search for an open selection list. -/
def endsSelectScope (name : Name) : Bool :=
  !(name.space == .html && ["optgroup", "option"].contains name.tag)

/-- Headings. -/
def headingTags : List String := ["h1", "h2", "h3", "h4", "h5", "h6"]

/-- Elements that may be closed without an end tag. -/
def impliedEndTags : List String :=
  ["dd", "dt", "li", "optgroup", "option", "p", "rb", "rp", "rt", "rtc"]

/-- Elements that the end of a template closes. -/
def impliedEndTagsOfTemplate : List String :=
  impliedEndTags ++ ["caption", "colgroup", "tbody", "td", "tfoot", "th", "thead", "tr"]

/-- Elements in which only parts of tables belong. -/
def fosteringTags : List String := ["table", "tbody", "tfoot", "thead", "tr"]

namespace Builder

/-! ## Questions about open elements -/

/-- The innermost open element; the document if there is none. -/
def current (b : Builder) : Nat := b.openIds.head?.getD 0

/-- Whether the innermost open element has a given tag. -/
def currentIs (b : Builder) (tag : String) : Bool := b.store.isHtml b.current tag

/-- Whether the innermost open element has one of the given tags. -/
def currentIn (b : Builder) (tags : List String) : Bool := b.store.isHtmlIn b.current tags

/-- Whether an element with a given tag is open. -/
def hasOpen (b : Builder) (tag : String) : Bool := b.openIds.any fun id => b.store.isHtml id tag

/-- Whether some open element is `wanted`, with no bound of the search inside it. -/
def inScopeFrom (b : Builder) (bound : Name → Bool) (wanted : Nat → Bool) : List Nat → Bool
  | [] => false
  | id :: outer =>
    wanted id || (!((b.store.name? id).any bound) && b.inScopeFrom bound wanted outer)

/-- Whether some open element is `wanted`, with no bound of the search inside it. -/
def inScope (b : Builder) (bound : Name → Bool) (wanted : Nat → Bool) : Bool :=
  b.inScopeFrom bound wanted b.openIds

/-- Whether an open element with a given tag can be reached. -/
def hasInScope (b : Builder) (bound : Name → Bool) (tag : String) : Bool :=
  b.inScope bound fun id => b.store.isHtml id tag

/-- The body, if it is open. -/
def body? (b : Builder) : Option Nat :=
  match b.openIds.reverse with
  | _ :: second :: _ => if b.store.isHtml second "body" then some second else none
  | _ => none

/-- The root element, if it is open. -/
def root? (b : Builder) : Option Nat := b.openIds.getLast?

/-! ## Places -/

/-- Where a node is put. -/
inductive Place where
  | lastOf (parent : Nat)
  | before (sibling : Nat)

/-- The node that holds the content of an element: its fragment if it is a template. -/
def contentOf (b : Builder) (id : Nat) : Nat :=
  if b.store.isHtml id "template" then (b.store.children id).head?.getD id else id

/-- Where misplaced content of a table goes: before the table, or into the template that is
nearer. -/
def fosterPlace (b : Builder) : List Nat → Place
  | [] => .lastOf (b.root?.getD 0)
  | id :: outer =>
    if b.store.isHtml id "template" then .lastOf (b.contentOf id)
    else if b.store.isHtml id "table" then
      match b.store.parent? id with
      | some _ => .before id
      | none => .lastOf (outer.head?.getD 0)
    else b.fosterPlace outer

/-- Where content for `target` goes. -/
def placeIn (b : Builder) (target : Nat) : Place :=
  if b.fostering && b.store.isHtmlIn target fosteringTags then b.fosterPlace b.openIds
  else .lastOf (b.contentOf target)

/-- Put a node at a place. -/
def putAt (b : Builder) (place : Place) (id : Nat) : Builder :=
  match place with
  | .lastOf parent => { b with store := b.store.append parent id }
  | .before sibling => { b with store := b.store.insertBefore sibling id }

/-- Make an element that is not yet in the tree. A template has a fragment for its content. -/
def newElement (b : Builder) (name : Name) (attributes : List Attribute) : Builder × Nat :=
  let (store, id) := b.store.create (.element name attributes)
  if name == ⟨.html, "template"⟩ then
    let (store, fragment) := store.create .fragment
    ({ b with store := store.append id fragment }, id)
  else ({ b with store }, id)

/-- Give an element those of the attributes that it does not have. -/
def addMissing (b : Builder) (id : Nat) (attributes : List Attribute) : Builder :=
  let change (entry : Entry) : Entry :=
    match entry.content with
    | .element name present =>
      let missing := attributes.filter fun a => !present.any fun p => p.name == a.name
      { entry with content := .element name (present ++ missing) }
    | _ => entry
  { b with store := b.store.update id change }

end Builder

/-! ## Steps -/

/-- Change the mode. -/
def setMode (mode : Mode) : Build Unit := modify fun b => { b with mode }

/-- Change the mode and let it look at the token again. -/
def goOnIn (mode : Mode) : Build Outcome := do setMode mode; return .again

/-- Nothing may replace the body from now on. -/
def forbidFrameset : Build Unit := modify fun b => { b with framesetAllowed := false }

/-- Close the innermost element. -/
def closeCurrent : Build Unit := modify fun b => { b with openIds := b.openIds.drop 1 }

/-- Close elements up to and including the first with one of the given tags. -/
def closeThrough (tags : List String) : Build Unit := modify fun b =>
  { b with openIds := (b.openIds.dropWhile fun id => !b.store.isHtmlIn id tags).drop 1 }

/-- Close elements until one of the given tags is innermost. -/
def closeUntil (tags : List String) : Build Unit := modify fun b =>
  { b with openIds := b.openIds.dropWhile fun id => !b.store.isHtmlIn id tags }

/-- Close elements as long as they have one of the given tags. -/
def closeWhile (tags : List String) : Build Unit := modify fun b =>
  { b with openIds := b.openIds.dropWhile fun id => b.store.isHtmlIn id tags }

/-- Close elements that need no end tag. -/
def closeImplied : Build Unit := closeWhile impliedEndTags

/-- Close elements that need no end tag, other than those with a given tag. -/
def closeImpliedBut (tag : String) : Build Unit := closeWhile (impliedEndTags.filter (· != tag))

/-- Take an element out of the open ones. -/
def removeOpen (id : Nat) : Build Unit := modify fun b =>
  { b with openIds := b.openIds.filter (· != id) }

/-- Make an element, put it where the next thing belongs, and open it. -/
def addElement (name : Name) (attributes : List Attribute) : Build Nat := do
  let b ← get
  let (made, id) := b.newElement name attributes
  let placed := made.putAt (made.placeIn made.current) id
  set { placed with openIds := id :: placed.openIds }
  return id

/-- Add the element of a tag and open it. -/
def addTag (tag : Tag) : Build Nat := addElement ⟨.html, tag.name⟩ tag.attributes

/-- Add the element of a tag that has no content. -/
def addVoid (tag : Tag) : Build Unit := do
  let _ ← addTag tag
  closeCurrent

/-- Add an element that no tag stands for. -/
def addImplied (tag : String) : Build Nat := addElement ⟨.html, tag⟩ []

/-- Add text where the next thing belongs. -/
def addText (text : Text) : Build Unit := modify fun b =>
  match b.placeIn b.current with
  | .lastOf parent => { b with store := b.store.appendText parent text }
  | .before sibling => { b with store := b.store.insertTextBefore sibling text }

/-- Add the element of a tag; its text is read without looking for tags. -/
def addRaw (tag : Tag) (lexing : Lexing) : Build Unit := do
  let _ ← addTag tag
  modify fun b => { b with returnMode := b.mode, mode := .rawText, lexing }

/-- Close an open paragraph. -/
def closeParagraph : Build Unit := do
  if (← get).hasInScope endsButtonScope "p" then
    closeImpliedBut "p"
    closeThrough ["p"]

/-! ## Formatting -/

/-- Start a stretch of formatting of its own. -/
def addBoundary : Build Unit := modify fun b => { b with formatting := .boundary :: b.formatting }

/-- Drop the formatting since the last boundary, and the boundary. -/
def forgetToBoundary : Build Unit := modify fun b =>
  let isElement : Formatting → Bool
    | .element .. => true
    | .boundary => false
  { b with formatting := (b.formatting.dropWhile isElement).drop 1 }

namespace Formatting

/-- The entries since the last boundary, latest first. -/
def recent : List Formatting → List (Nat × Tag)
  | .element id tag :: older => (id, tag) :: recent older
  | _ => []

/-- Whether an entry is a given element. -/
def isFor (id : Nat) : Formatting → Bool
  | .element entry _ => entry == id
  | .boundary => false

end Formatting

/-- Take an element out of the formatting elements. -/
def removeFormatting (id : Nat) : Build Unit := modify fun b =>
  { b with formatting := b.formatting.filter fun entry => !entry.isFor id }

/-- Whether two tags say the same, the order of attributes aside. -/
def sameTag (a b : Tag) : Bool :=
  a.name == b.name && a.attributes.length == b.attributes.length &&
    a.attributes.all b.attributes.contains

/-- Add a formatting element. Of four equal ones since the last boundary the first is
forgotten. -/
def addFormatting (tag : Tag) : Build Unit := do
  let equal := (Formatting.recent (← get).formatting).filter fun entry => sameTag entry.2 tag
  if equal.length ≥ 3 then
    match equal.getLast? with
    | some (id, _) => removeFormatting id
    | none => pure ()
  let id ← addTag tag
  modify fun b => { b with formatting := .element id tag :: b.formatting }

/-- Open again the formatting elements since the last one that is still open. -/
def resumeFormatting : Build Unit := do
  let b ← get
  let closed := (Formatting.recent b.formatting).takeWhile fun entry => !b.openIds.contains entry.1
  for (old, tag) in closed.reverse do
    let new ← addTag tag
    modify fun b =>
      { b with
        formatting := b.formatting.map fun entry =>
          if entry.isFor old then .element new tag else entry }

/-! ## Modes -/

/-- The mode of the innermost open element that decides it. -/
def Builder.modeFor (b : Builder) : List Nat → Mode
  | [] => .inBody
  | id :: outer =>
    match b.store.name? id with
    | some ⟨.html, tag⟩ =>
      if tag == "select" then
        let nearest := outer.find? fun o => b.store.isHtmlIn o ["template", "table"]
        if nearest.any fun o => b.store.isHtml o "table" then .inSelectInTable else .inSelect
      else if tag == "td" || tag == "th" then .inCell
      else if tag == "tr" then .inRow
      else if tag == "tbody" || tag == "thead" || tag == "tfoot" then .inTableBody
      else if tag == "caption" then .inCaption
      else if tag == "colgroup" then .inColumnGroup
      else if tag == "table" then .inTable
      else if tag == "template" then b.templateModes.head?.getD .inTemplate
      else if tag == "head" then .inHead
      else if tag == "body" then .inBody
      else if tag == "frameset" then .inFrameset
      else if tag == "html" then (if b.head.isSome then .afterHead else .beforeHead)
      else b.modeFor outer
    | _ => b.modeFor outer

/-- Choose the mode by the open elements. -/
def resetMode : Build Unit := modify fun b => { b with mode := b.modeFor b.openIds }

end StyleAudit.Markup
