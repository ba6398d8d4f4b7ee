import StyleAudit.Failure
import StyleAudit.Markup.Page
import StyleAudit.Selector.Match

/-!
# Pages

- `Page`: what the analysis needs of a page: its document and the text of the style element
  that was made first.
- `Page.ofMarkup`: the page of a markup text. Every text with some content is a page.
-/

namespace StyleAudit

/-- A page: what answers queries about it, and the text of the style element that was made
first. -/
structure Page where
  document : Document
  style? : Option Text

/-- How a page is made from markup. -/
abbrev PageReader := Text → Except Failure Page

/-- The document with given elements: a query is a selector list, and an unreadable one is
rejected with its fault. -/
def Document.ofSites (sites : List Selector.Site) : Document where
  query text :=
    match Selector.parse text with
    | .ok selectors => .ok (Selector.matchesAny selectors sites)
    | .error fault => .error fault.message

/-- The page of a markup text. -/
def Page.ofMarkup : PageReader := fun markup =>
  if (Text.trim markup).isEmpty then .error (.markup "markup is empty".toList)
  else
    let sites := Selector.sites (Markup.Forest.ofText markup)
    let style? := sites.find? fun site => site.name.tag == "style"
    .ok ⟨.ofSites sites, style?.map fun site => site.node.textContent⟩

end StyleAudit
