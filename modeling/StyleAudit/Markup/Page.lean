import StyleAudit.Markup.Rules.Table

/-!
# Pages

A page is read token by token. Each token is handled by the rules of the current mode,
which may change the mode and ask for the token to be looked at again.

- `inSelect`, `inTemplate`, `inFrameset`, …: the remaining modes.
- `step`: the rules of a mode.
- `Forest.ofText`: the trees of a page.
-/

namespace StyleAudit.Markup

/-! ## Selection lists -/

/-- Close the innermost selection list, if there is one. -/
def leaveSelect (next : Outcome) : Build Outcome := do
  if (← get).hasInScope endsSelectScope "select" then
    closeThrough ["select"]
    resetMode
    return next
  return .done

/-- Close an option, and a group of options. -/
def closeOptions : Build Unit := do
  if (← get).currentIs "option" then closeCurrent
  if (← get).currentIs "optgroup" then closeCurrent

/-- In a selection list. -/
def inSelect (token : Token) : Build Outcome := do
  match token with
  | .blank text | .text text => addText text; return .done
  | .openTag tag =>
    match tag.name with
    | "html" => mergeRoot tag
    | "option" =>
      if (← get).currentIs "option" then closeCurrent
      let _ ← addTag tag
      return .done
    | "optgroup" =>
      closeOptions
      let _ ← addTag tag
      return .done
    | "hr" =>
      closeOptions
      addVoid tag
      return .done
    | "select" => leaveSelect .done
    | "input" | "keygen" | "textarea" => leaveSelect .again
    | "script" | "template" => addHeadContent tag
    | _ => return .done
  | .closeTag name =>
    match name with
    | "optgroup" =>
      let b ← get
      let inGroup := b.openIds[1]?.any fun id => b.store.isHtml id "optgroup"
      if b.currentIs "option" && inGroup then closeCurrent
      if (← get).currentIs "optgroup" then closeCurrent
      return .done
    | "option" =>
      if (← get).currentIs "option" then closeCurrent
      return .done
    | "select" => leaveSelect .done
    | "template" => closeTemplate
    | _ => return .done
  | .ending => inBody token
  | .null | .comment | .doctype _ => return .done

/-- In a selection list of a table. -/
def inSelectInTable (token : Token) : Build Outcome := do
  let isPart (name : String) : Bool :=
    ["caption", "table", "tbody", "tfoot", "thead", "tr", "td", "th"].contains name
  let leave : Build Outcome := do
    closeThrough ["select"]
    resetMode
    return .again
  match token with
  | .openTag tag => if isPart tag.name then leave else inSelect token
  | .closeTag name =>
    if isPart name then
      if (← get).hasInScope endsTableScope name then leave else return .done
    else inSelect token
  | _ => inSelect token

/-! ## Templates -/

/-- Go on in the mode that a template's content asks for. -/
def templateIn (mode : Mode) : Build Outcome := do
  modify fun b => { b with templateModes := mode :: b.templateModes.drop 1 }
  goOnIn mode

/-- In a template. -/
def inTemplate (token : Token) : Build Outcome := do
  match token with
  | .blank _ | .text _ | .null => inBody token
  | .openTag tag =>
    if headTags.contains tag.name then addHeadContent tag
    else if ["caption", "colgroup", "tbody", "tfoot", "thead"].contains tag.name then
      templateIn .inTable
    else if tag.name == "col" then templateIn .inColumnGroup
    else if tag.name == "tr" then templateIn .inTableBody
    else if tag.name == "td" || tag.name == "th" then templateIn .inRow
    else templateIn .inBody
  | .closeTag name => if name == "template" then closeTemplate else return .done
  | .ending => endTemplate
  | .comment | .doctype _ => return .done

/-! ## After the body, and framesets -/

/-- After the body: the next thing but blanks and the end of the page opens it again. -/
def inAfterBody (token : Token) : Build Outcome := do
  match token with
  | .blank _ => inBody token
  | .comment | .doctype _ | .ending => return .done
  | .openTag tag => if tag.name == "html" then mergeRoot tag else goOnIn .inBody
  | .closeTag name =>
    if name == "html" then
      setMode .afterAfterBody
      return .done
    goOnIn .inBody
  | _ => goOnIn .inBody

/-- After the page. -/
def inAfterAfterBody (token : Token) : Build Outcome := do
  match token with
  | .blank _ => inBody token
  | .comment | .doctype _ | .ending => return .done
  | .openTag tag => if tag.name == "html" then mergeRoot tag else goOnIn .inBody
  | _ => goOnIn .inBody

/-- In a frameset. -/
def inFrameset (token : Token) : Build Outcome := do
  match token with
  | .blank text => addText text; return .done
  | .openTag tag =>
    match tag.name with
    | "html" => mergeRoot tag
    | "frameset" =>
      let _ ← addTag tag
      return .done
    | "frame" => addVoid tag; return .done
    | "noframes" => addHeadContent tag
    | _ => return .done
  | .closeTag "frameset" =>
    if (← get).openIds.length > 1 then
      closeCurrent
      if !(← get).currentIs "frameset" then setMode .afterFrameset
    return .done
  | _ => return .done

/-- After a frameset. -/
def inAfterFrameset (token : Token) : Build Outcome := do
  match token with
  | .blank text => addText text; return .done
  | .openTag tag =>
    match tag.name with
    | "html" => mergeRoot tag
    | "noframes" => addHeadContent tag
    | _ => return .done
  | .closeTag "html" => setMode .afterAfterFrameset; return .done
  | _ => return .done

/-- After a page with a frameset. -/
def inAfterAfterFrameset (token : Token) : Build Outcome := do
  match token with
  | .blank _ => inBody token
  | .openTag tag =>
    match tag.name with
    | "html" => mergeRoot tag
    | "noframes" => addHeadContent tag
    | _ => return .done
  | _ => return .done

/-! ## All modes -/

/-- Text that is read without looking for tags. -/
def inRawText (token : Token) : Build Outcome := do
  match token with
  | .blank text | .text text => addText text; return .done
  | .closeTag _ =>
    closeCurrent
    modify fun b => { b with mode := b.returnMode, lexing := .data }
    return .done
  | .ending =>
    closeCurrent
    goOnIn (← get).returnMode
  | _ => return .done

/-- The rules of a mode. -/
def step : Mode → Token → Build Outcome
  | .initial => inInitial
  | .beforeHtml => inBeforeHtml
  | .beforeHead => inBeforeHead
  | .inHead => inHead
  | .afterHead => inAfterHead
  | .inBody => inBody
  | .rawText => inRawText
  | .inTable => inTable
  | .inTableText => inTableText
  | .inCaption => inCaption
  | .inColumnGroup => inColumnGroup
  | .inTableBody => inTableBody
  | .inRow => inRow
  | .inCell => inCell
  | .inSelect => inSelect
  | .inSelectInTable => inSelectInTable
  | .inTemplate => inTemplate
  | .afterBody => inAfterBody
  | .inFrameset => inFrameset
  | .afterFrameset => inAfterFrameset
  | .afterAfterBody => inAfterAfterBody
  | .afterAfterFrameset => inAfterAfterFrameset

/-- Look at a token once. -/
def look (token : Token) : Build Outcome := do
  let b ← get
  if b.isForeign token then
    match ← inForeign token with
    | some outcome => return outcome
    | none => step (← get).mode token
  else step b.mode token

/-- Look at a token until it is used up, at most `limit` times. -/
def handle (token : Token) : Nat → Build Unit
  | 0 => return
  | limit + 1 => do
    match ← look token with
    | .done => return
    | .again => handle token limit

/-- Drop a line feed that comes first in an element. -/
def dropLineFeed : Token → Option Token
  | .blank ['\n'] => none
  | .blank ('\n' :: text) => some (.blank text)
  | token => some token

/-- Handle a token. Each look at it but a few closes an element, so their number is bounded. -/
def accept (token : Token) : Build Unit := do
  let b ← get
  set { b with skipLineFeed := false }
  match if b.skipLineFeed then dropLineFeed token else some token with
  | some token => handle token (64 + 4 * b.openIds.length)
  | none => return

/-- After a mistake, a line feed that comes first in an element is kept. -/
def noticeMistake : Build Unit := modify fun b => { b with skipLineFeed := false }

/-- Read a text, in at most `limit` steps. -/
def read : Nat → Text → Build Unit
  | _, [] => accept .ending
  | 0, _ => return
  | limit + 1, text => do
    let b ← get
    let (tokens, rest) := next b.lexing (b.currentSpace != .html) text
    if startsWithMistake b.lexing text then noticeMistake
    for token in tokens do
      accept token
    read limit rest

/-- The trees of a page. -/
def Forest.ofText (text : Text) : Forest :=
  let input := tidyInput text
  ((read input.length input).run .start).2.store.finish

end StyleAudit.Markup
