import StyleAudit.Markup.Rules.Body

/-!
# Rules of tables

Content that does not belong into a table is put before it; missing row groups and rows
are made by the cells and rows that need them.

- `inTable`, `inTableText`, `inCaption`, `inColumnGroup`, `inTableBody`, `inRow`, `inCell`.
-/

namespace StyleAudit.Markup

/-- Handle a token by the rules of the body, with misplaced content before the table. -/
def foster (token : Token) : Build Outcome := do
  modify fun b => { b with fostering := true }
  let outcome ← inBody token
  modify fun b => { b with fostering := false }
  return outcome

/-- Tags of the parts of a table. -/
def partTags : List String :=
  ["caption", "col", "colgroup", "tbody", "td", "tfoot", "th", "thead", "tr"]

/-- Close the innermost table and look at the token again, if a table can be reached. -/
def leaveTable (next : Outcome) : Build Outcome := do
  if (← get).hasInScope endsTableScope "table" then
    closeThrough ["table"]
    resetMode
    return next
  return .done

/-- Close elements until a table can take a part. -/
def backToTable : Build Unit := closeUntil ["table", "template", "html"]

/-- Close elements until a row group can take a row. -/
def backToTableBody : Build Unit := closeUntil ["tbody", "tfoot", "thead", "template", "html"]

/-- Close elements until a row can take a cell. -/
def backToRow : Build Unit := closeUntil ["tr", "template", "html"]

/-- A start tag in a table. -/
def openInTable (tag : Tag) : Build Outcome := do
  match tag.name with
  | "caption" =>
    backToTable
    addBoundary
    let _ ← addTag tag
    setMode .inCaption
    return .done
  | "colgroup" =>
    backToTable
    let _ ← addTag tag
    setMode .inColumnGroup
    return .done
  | "col" =>
    backToTable
    let _ ← addImplied "colgroup"
    goOnIn .inColumnGroup
  | "tbody" | "tfoot" | "thead" =>
    backToTable
    let _ ← addTag tag
    setMode .inTableBody
    return .done
  | "td" | "th" | "tr" =>
    backToTable
    let _ ← addImplied "tbody"
    goOnIn .inTableBody
  | "table" => leaveTable .again
  | "style" | "script" | "template" => addHeadContent tag
  | "input" =>
    if isHidden tag then
      addVoid tag
      return .done
    foster (.openTag tag)
  | "form" =>
    let b ← get
    if !b.hasOpen "template" && b.form.isNone then
      let id ← addTag tag
      closeCurrent
      modify fun b => { b with form := some id }
    return .done
  | _ => foster (.openTag tag)

/-- In a table. -/
def inTable (token : Token) : Build Outcome := do
  match token with
  | .null | .blank _ | .text _ =>
    let b ← get
    if b.currentIn fosteringTags then
      set { b with tableText := [], returnMode := b.mode }
      goOnIn .inTableText
    else foster token
  | .comment | .doctype _ => return .done
  | .openTag tag => openInTable tag
  | .closeTag name =>
    if name == "table" then leaveTable .done
    else if name == "template" then closeTemplate
    else if name == "body" || name == "html" || partTags.contains name then return .done
    else foster token
  | .ending => inBody token

/-- Whether a token holds more than blanks. -/
def isVisible : Token → Bool
  | .text _ => true
  | _ => false

/-- Text between the parts of a table: blanks stay, other text is put before the table. -/
def inTableText (token : Token) : Build Outcome := do
  match token with
  | .null | .doctype _ => return .done
  | .blank _ | .text _ =>
    modify fun b => { b with tableText := b.tableText ++ [token] }
    return .done
  | _ =>
    let b ← get
    if b.tableText.any isVisible then
      for piece in b.tableText do
        let _ ← foster piece
    else
      for piece in b.tableText do
        match piece with
        | .blank text => addText text
        | _ => pure ()
    goOnIn b.returnMode

/-- Close the open caption; whether there is one. -/
def closeCaption : Build Bool := do
  if (← get).hasInScope endsTableScope "caption" then
    closeImplied
    closeThrough ["caption"]
    forgetToBoundary
    setMode .inTable
    return true
  return false

/-- In a caption. -/
def inCaption (token : Token) : Build Outcome := do
  match token with
  | .openTag tag =>
    if partTags.contains tag.name then
      return if ← closeCaption then .again else .done
    inBody token
  | .closeTag name =>
    if name == "caption" then
      let _ ← closeCaption
      return .done
    if name == "table" then return if ← closeCaption then .again else .done
    if name == "body" || name == "html" || partTags.contains name then return .done
    inBody token
  | _ => inBody token

/-- In a column group. -/
def inColumnGroup (token : Token) : Build Outcome := do
  match token with
  | .blank text => addText text; return .done
  | .comment | .doctype _ => return .done
  | .ending => return ← inBody token
  | .openTag tag =>
    if tag.name == "html" then return ← mergeRoot tag
    if tag.name == "col" then
      addVoid tag
      return .done
    if tag.name == "template" then return ← addHeadContent tag
  | .closeTag name =>
    if name == "colgroup" then
      if (← get).currentIs "colgroup" then
        closeCurrent
        setMode .inTable
      return .done
    if name == "col" then return .done
    if name == "template" then return ← closeTemplate
  | _ => pure ()
  if (← get).currentIs "colgroup" then
    closeCurrent
    goOnIn .inTable
  else return .done

/-- Close the open row group. -/
def closeTableBody : Build Unit := do
  backToTableBody
  closeCurrent
  setMode .inTable

/-- Close the open row group, if it can be told that there is one, and look at the token
again. A table or a group other than its head tells it. -/
def leaveTableBody : Build Outcome := do
  let b ← get
  if b.inScope endsTableScope fun id => b.store.isHtmlIn id ["table", "tbody", "tfoot"] then
    closeTableBody
    return .again
  return .done

/-- In a row group. -/
def inTableBody (token : Token) : Build Outcome := do
  match token with
  | .openTag tag =>
    if tag.name == "tr" then
      backToTableBody
      let _ ← addTag tag
      setMode .inRow
      return .done
    if tag.name == "th" || tag.name == "td" then
      backToTableBody
      let _ ← addImplied "tr"
      goOnIn .inRow
    else if partTags.contains tag.name then leaveTableBody
    else inTable token
  | .closeTag name =>
    if ["tbody", "tfoot", "thead"].contains name then
      if (← get).hasInScope endsTableScope name then closeTableBody
      return .done
    if name == "table" then return ← leaveTableBody
    if name == "body" || name == "html" || partTags.contains name then return .done
    inTable token
  | _ => inTable token

/-- Close the open row; whether there is one. -/
def closeRow : Build Bool := do
  if (← get).hasInScope endsTableScope "tr" then
    backToRow
    closeCurrent
    setMode .inTableBody
    return true
  return false

/-- In a row. -/
def inRow (token : Token) : Build Outcome := do
  match token with
  | .openTag tag =>
    if tag.name == "th" || tag.name == "td" then
      backToRow
      let _ ← addTag tag
      setMode .inCell
      addBoundary
      return .done
    if partTags.contains tag.name then return if ← closeRow then .again else .done
    inTable token
  | .closeTag name =>
    if name == "tr" then
      let _ ← closeRow
      return .done
    if name == "table" then return if ← closeRow then .again else .done
    if ["tbody", "tfoot", "thead"].contains name then
      if (← get).hasInScope endsTableScope name then
        return if ← closeRow then .again else .done
      return .done
    if name == "body" || name == "html" || partTags.contains name then return .done
    inTable token
  | _ => inTable token

/-- Close the open cell. -/
def closeCell : Build Unit := do
  closeImplied
  closeThrough ["td", "th"]
  forgetToBoundary
  setMode .inRow

/-- In a cell. -/
def inCell (token : Token) : Build Outcome := do
  match token with
  | .openTag tag =>
    if partTags.contains tag.name then
      let b ← get
      if b.inScope endsTableScope fun id => b.store.isHtmlIn id ["td", "th"] then
        closeCell
        return .again
      return .done
    inBody token
  | .closeTag name =>
    if name == "td" || name == "th" then
      if (← get).hasInScope endsTableScope name then
        closeImplied
        closeThrough [name]
        forgetToBoundary
        setMode .inRow
      return .done
    if ["table", "tbody", "tfoot", "thead", "tr"].contains name then
      if (← get).hasInScope endsTableScope name then
        closeCell
        return .again
      return .done
    if ["body", "caption", "col", "colgroup", "html"].contains name then return .done
    inBody token
  | _ => inBody token

end StyleAudit.Markup
