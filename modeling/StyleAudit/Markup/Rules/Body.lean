import StyleAudit.Markup.Rules.Foreign
import StyleAudit.Markup.Rules.Head

/-!
# Rules of the body

- `openInBody`: start tags. Blocks end an open paragraph, list items end their
  predecessors, formatting elements are remembered.
- `closeInBody`: end tags.
- `inBody`: all tokens.
-/

namespace StyleAudit.Markup

/-- Blocks that end an open paragraph. -/
def blockTags : List String :=
  ["address", "article", "aside", "blockquote", "center", "details", "dialog", "dir", "div", "dl",
    "fieldset", "figcaption", "figure", "footer", "header", "hgroup", "main", "menu", "nav", "ol",
    "p", "search", "section", "summary", "ul"]

/-- Blocks whose end tags close them. -/
def closableBlockTags : List String :=
  ["address", "article", "aside", "blockquote", "button", "center", "details", "dialog", "dir",
    "div", "dl", "fieldset", "figcaption", "figure", "footer", "header", "hgroup", "listing",
    "main", "menu", "nav", "ol", "pre", "search", "section", "summary", "ul"]

/-- Formatting elements. -/
def formattingTags : List String :=
  ["b", "big", "code", "em", "font", "i", "s", "small", "strike", "strong", "tt", "u"]

/-- Elements without content that may stand in a line. -/
def voidTags : List String := ["area", "br", "embed", "img", "keygen", "wbr", "input"]

/-- Tags that mean nothing in the body. -/
def misplacedTags : List String :=
  ["caption", "col", "colgroup", "frame", "head", "tbody", "td", "tfoot", "th", "thead", "tr"]

/-- Whether an input element is hidden. -/
def isHidden (tag : Tag) : Bool :=
  tag.attributes.any fun a => a.name == "type" && Text.sameIgnoringCase a.value "hidden".toList

/-- The first open list item or description part with one of the given tags that a new one
ends: only paragraphs, addresses, divisions and ordinary elements may stand in between. -/
def Builder.itemToClose? (b : Builder) (tags : List String) : List Nat → Option String
  | [] => none
  | id :: outer =>
    match b.store.name? id with
    | some name =>
      if name.space == .html && tags.contains name.tag then some name.tag
      else if isSpecial name && !b.store.isHtmlIn id ["address", "div", "p"] then none
      else b.itemToClose? tags outer
    | none => b.itemToClose? tags outer

/-- Add a list item or description part, which ends the open one of its kind. -/
def addItem (tag : Tag) : Build Unit := do
  forbidFrameset
  let b ← get
  let ends := if tag.name == "li" then ["li"] else ["dd", "dt"]
  match b.itemToClose? ends b.openIds with
  | some name =>
    closeImpliedBut name
    closeThrough [name]
  | none => pure ()
  closeParagraph
  let _ ← addTag tag

/-- Add a link, which ends the open one. -/
def addLink (tag : Tag) : Build Unit := do
  match (Formatting.recent (← get).formatting).find? fun entry => entry.2.name == "a" with
  | some (id, _) =>
    adopt "a"
    removeFormatting id
    removeOpen id
  | none => pure ()
  resumeFormatting
  addFormatting tag

/-- A frameset in place of the body, if nothing forbids it. -/
def replaceBody (tag : Tag) : Build Unit := do
  let b ← get
  if b.framesetAllowed then
    match b.body?, b.root? with
    | some body, some root =>
      set { b with store := b.store.detach body, openIds := [root], mode := .inFrameset }
      let _ ← addTag tag
    | _, _ => pure ()

/-- Add a form, unless one is open. -/
def addForm (tag : Tag) : Build Unit := do
  let inTemplate := (← get).hasOpen "template"
  if (← get).form.isNone || inTemplate then
    closeParagraph
    let id ← addTag tag
    if !inTemplate then modify fun b => { b with form := some id }

/-- Add a selection list. -/
def addSelect (tag : Tag) : Build Unit := do
  resumeFormatting
  let _ ← addTag tag
  forbidFrameset
  modify fun b =>
    let inTable := [Mode.inTable, .inCaption, .inTableBody, .inRow, .inCell].contains b.mode
    { b with mode := if inTable then .inSelectInTable else .inSelect }

/-- A start tag in the body. -/
def openInBody (tag : Tag) : Build Outcome := do
  let name := tag.name
  if name == "html" then mergeRoot tag
  else if headTags.contains name then addHeadContent tag
  else
    if name == "body" then
      let b ← get
      match b.body? with
      | some body =>
        if !b.hasOpen "template" then
          set (b.addMissing body tag.attributes)
          forbidFrameset
      | none => pure ()
    else if name == "frameset" then replaceBody tag
    else if blockTags.contains name then
      closeParagraph
      let _ ← addTag tag
    else if headingTags.contains name then
      closeParagraph
      if (← get).currentIn headingTags then closeCurrent
      let _ ← addTag tag
    else if name == "pre" || name == "listing" then
      closeParagraph
      let _ ← addTag tag
      forbidFrameset
      modify fun b => { b with skipLineFeed := true }
    else if name == "form" then addForm tag
    else if name == "li" || name == "dd" || name == "dt" then addItem tag
    else if name == "plaintext" then
      closeParagraph
      let _ ← addTag tag
      modify fun b => { b with lexing := .plain }
    else if name == "button" then
      if (← get).hasInScope endsScope "button" then
        closeImplied
        closeThrough ["button"]
      resumeFormatting
      let _ ← addTag tag
      forbidFrameset
    else if name == "a" then addLink tag
    else if formattingTags.contains name then
      resumeFormatting
      addFormatting tag
    else if name == "nobr" then
      resumeFormatting
      if (← get).hasInScope endsScope "nobr" then
        adopt "nobr"
        resumeFormatting
      addFormatting tag
    else if ["applet", "marquee", "object"].contains name then
      resumeFormatting
      let _ ← addTag tag
      addBoundary
      forbidFrameset
    else if name == "table" then
      if !(← get).legacy then closeParagraph
      let _ ← addTag tag
      forbidFrameset
      setMode .inTable
    else if voidTags.contains name || name == "image" then
      resumeFormatting
      addVoid (if name == "image" then { tag with name := "img" } else tag)
      if !(name == "input" && isHidden tag) then forbidFrameset
    else if ["param", "source", "track"].contains name then addVoid tag
    else if name == "hr" then
      closeParagraph
      addVoid tag
      forbidFrameset
    else if name == "textarea" then
      forbidFrameset
      addRaw tag (.escapable name)
      modify fun b => { b with skipLineFeed := true }
    else if name == "xmp" then
      closeParagraph
      resumeFormatting
      forbidFrameset
      addRaw tag (.raw name)
    else if name == "iframe" then
      forbidFrameset
      addRaw tag (.raw name)
    else if name == "noembed" || name == "noscript" then addRaw tag (.raw name)
    else if name == "select" then addSelect tag
    else if name == "optgroup" || name == "option" then
      if (← get).currentIs "option" then closeCurrent
      resumeFormatting
      let _ ← addTag tag
    else if name == "rb" || name == "rtc" then
      if (← get).hasInScope endsScope "ruby" then closeImplied
      let _ ← addTag tag
    else if name == "rp" || name == "rt" then
      if (← get).hasInScope endsScope "ruby" then closeImpliedBut "rtc"
      let _ ← addTag tag
    else if name == "math" || name == "svg" then
      let _ ← addForeign (if name == "svg" then .svg else .math) tag
    else if misplacedTags.contains name then pure ()
    else
      resumeFormatting
      let _ ← addTag tag
    return .done

/-- The end tag of a form. -/
def closeForm : Build Unit := do
  let b ← get
  if b.hasOpen "template" then
    if b.hasInScope endsScope "form" then
      closeImplied
      closeThrough ["form"]
  else
    match b.form with
    | some form =>
      set { b with form := none }
      if b.inScope endsScope (· == form) then
        closeImplied
        removeOpen form
    | none => pure ()

/-- An end tag in the body. -/
def closeInBody (name : String) : Build Outcome := do
  let b ← get
  if name == "template" then closeTemplate
  else if name == "html" then
    if b.hasInScope endsScope "body" then goOnIn .afterBody else return .done
  else if name == "br" then openInBody ⟨"br", [], false⟩
  else
    if name == "body" then
      if b.hasInScope endsScope "body" then setMode .afterBody
    else if closableBlockTags.contains name then
      if b.hasInScope endsScope name then
        closeImplied
        closeThrough [name]
    else if name == "form" then closeForm
    else if name == "p" then
      if !b.hasInScope endsButtonScope "p" then
        let _ ← addImplied "p"
      closeParagraph
    else if name == "li" || name == "dd" || name == "dt" then
      if b.hasInScope (if name == "li" then endsListScope else endsScope) name then
        closeImpliedBut name
        closeThrough [name]
    else if headingTags.contains name then
      if b.inScope endsScope fun id => b.store.isHtmlIn id headingTags then
        closeImplied
        closeThrough headingTags
    else if name == "a" || name == "nobr" || formattingTags.contains name then adopt name
    else if ["applet", "marquee", "object"].contains name then
      if b.hasInScope endsScope name then
        closeImplied
        closeThrough [name]
        forgetToBoundary
    else closeNamed name
    return .done

/-- In the body. -/
def inBody (token : Token) : Build Outcome := do
  match token with
  | .blank text => resumeFormatting; addText text; return .done
  | .text text => resumeFormatting; forbidFrameset; addText text; return .done
  | .openTag tag => openInBody tag
  | .closeTag name => closeInBody name
  | .ending => if (← get).templateModes.isEmpty then return .done else endTemplate
  | .null | .comment | .doctype _ => return .done

end StyleAudit.Markup
