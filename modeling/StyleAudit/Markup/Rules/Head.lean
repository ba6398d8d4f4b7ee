import StyleAudit.Markup.Builder

/-!
# Rules up to the body

The elements `html`, `head` and `body` exist on every page; where their tags are missing
they are made by what follows.

- `inInitial`, `inBeforeHtml`, `inBeforeHead`, `inHead`, `inAfterHead`: the modes up to the
  body.
- `addHeadContent`, `closeTemplate`, `endTemplate`: what these modes share with others.
-/

namespace StyleAudit.Markup

/-- Elements that belong to the head wherever they stand. -/
def headTags : List String :=
  ["base", "basefont", "bgsound", "link", "meta", "noframes", "script", "style", "template",
    "title"]

/-- End tags that stand for their own missing start tags. -/
def openingEndTags : List String := ["body", "html", "br"]

/-- A further root tag adds its attributes to the root, unless a template is open. -/
def mergeRoot (tag : Tag) : Build Outcome := do
  let b ← get
  if !b.hasOpen "template" then
    match b.root? with
    | some root => set (b.addMissing root tag.attributes)
    | none => pure ()
  return .done

/-- Whether the content of a template is for the element that the template stands in. -/
def isForHost (tag : Tag) : Bool :=
  tag.attributes.any fun a =>
    a.name == "shadowrootmode" && (a.value == "open".toList || a.value == "close".toList)

/-- Enter a template. One whose content is for the element that it stands in makes no element
of its own, unless only the root is open. -/
def enterTemplate (tag : Tag) : Build Unit := do
  if !(isForHost tag && (← get).openIds.length > 1) then
    let _ ← addTag tag
  addBoundary
  forbidFrameset
  modify fun b => { b with mode := .inTemplate, templateModes := .inTemplate :: b.templateModes }

/-- Add an element that belongs to the head. -/
def addHeadContent (tag : Tag) : Build Outcome := do
  match tag.name with
  | "title" => addRaw tag (.escapable "title")
  | "noframes" | "style" | "noscript" => addRaw tag (.raw tag.name)
  | "script" => addRaw tag .script
  | "template" => enterTemplate tag
  | _ => addVoid tag
  return .done

/-- Leave the innermost template. -/
def leaveTemplate : Build Unit := do
  closeThrough ["template"]
  forgetToBoundary
  modify fun b => { b with templateModes := b.templateModes.drop 1 }
  resetMode

/-- The end tag of a template. -/
def closeTemplate : Build Outcome := do
  if (← get).hasOpen "template" then
    closeWhile impliedEndTagsOfTemplate
    leaveTemplate
  return .done

/-- The end of input closes the open templates one by one. -/
def endTemplate : Build Outcome := do
  if (← get).hasOpen "template" then
    leaveTemplate
    return .again
  return .done

/-- Before anything. -/
def inInitial : Token → Build Outcome
  | .comment | .blank _ => return .done
  | .doctype legacy => do
    modify fun b => { b with legacy, mode := .beforeHtml }
    return .done
  | _ => do
    modify fun b => { b with legacy := true }
    goOnIn .beforeHtml

/-- Before the root. -/
def inBeforeHtml (token : Token) : Build Outcome := do
  match token with
  | .comment | .blank _ | .doctype _ => return .done
  | .openTag tag =>
    if tag.name == "html" then
      let _ ← addTag tag
      setMode .beforeHead
      return .done
  | .closeTag name => if !("head" :: openingEndTags).contains name then return .done
  | _ => pure ()
  let _ ← addImplied "html"
  goOnIn .beforeHead

/-- Between the root tag and the head. -/
def inBeforeHead (token : Token) : Build Outcome := do
  match token with
  | .comment | .blank _ | .doctype _ => return .done
  | .openTag tag =>
    if tag.name == "html" then return ← mergeRoot tag
    if tag.name == "head" then
      let head ← addTag tag
      modify fun b => { b with head := some head, mode := .inHead }
      return .done
  | .closeTag name => if !("head" :: openingEndTags).contains name then return .done
  | _ => pure ()
  let head ← addImplied "head"
  modify fun b => { b with head := some head }
  goOnIn .inHead

/-- In the head. -/
def inHead (token : Token) : Build Outcome := do
  match token with
  | .blank text => addText text; return .done
  | .comment | .doctype _ => return .done
  | .openTag tag =>
    if tag.name == "html" then return ← mergeRoot tag
    if tag.name == "noscript" || headTags.contains tag.name then return ← addHeadContent tag
    if tag.name == "head" then return .done
  | .closeTag name =>
    if name == "head" then
      closeCurrent
      setMode .afterHead
      return .done
    if name == "template" then return ← closeTemplate
    if !openingEndTags.contains name then return .done
  | _ => pure ()
  closeCurrent
  goOnIn .afterHead

/-- Between the head and the body. -/
def inAfterHead (token : Token) : Build Outcome := do
  match token with
  | .blank text => addText text; return .done
  | .comment | .doctype _ => return .done
  | .openTag tag =>
    if tag.name == "html" then return ← mergeRoot tag
    if tag.name == "body" then
      let _ ← addTag tag
      forbidFrameset
      setMode .inBody
      return .done
    if tag.name == "frameset" then
      let _ ← addTag tag
      setMode .inFrameset
      return .done
    if headTags.contains tag.name then
      -- The head is open again for this one element.
      let head := (← get).head.getD 0
      modify fun b => { b with openIds := head :: b.openIds }
      let outcome ← addHeadContent tag
      removeOpen head
      return outcome
    if tag.name == "head" then return .done
  | .closeTag name =>
    if name == "template" then return ← closeTemplate
    if !openingEndTags.contains name then return .done
  | _ => pure ()
  let _ ← addImplied "body"
  goOnIn .inBody

end StyleAudit.Markup
