import StyleAudit.Text.Alphanumeric
import StyleAudit.Diagnostic
import StyleAudit.Failure
import StyleAudit.Findings
import StyleAudit.Locate.Region

/-!
# Placing findings

- `placeUnused`: each occurrence of an unused selector on the next line that
  mentions it, starting over after the last one.
- `placeOverwritten`: an overwritten property on the first line that sets it in a
  rule that mentions its selector.
- `diagnostics`: the findings of a source as diagnostics, in order of their place.
- `failureDiagnostic`: a failure as a diagnostic.
-/

namespace StyleAudit.Locate

/-! ## Unused selectors -/

/-- The spans of unused selectors; `next` holds, for each selector placed before,
the line after the last one used for it. -/
def placeUnusedFrom (region : Region) (next : List (Text × Nat)) : List Unused → List Span
  | [] => []
  | record :: rest =>
    let found :=
      (region.find? record.selector ((next.lookup record.selector).getD 0)).or
        (region.find? record.selector 0)
    match found with
    | some (position, span) =>
      span :: placeUnusedFrom region ((record.selector, position + 1) :: next) rest
    | none => region.anchor :: placeUnusedFrom region next rest

/-- The spans of unused selectors. -/
def placeUnused (region : Region) (records : List Unused) : List Span :=
  placeUnusedFrom region [] records

/-! ## Overwritten properties -/

/-- Look for `property` as the name of a declaration; `before` is the character in
front of the text, `column` the bytes before it, and `skip` counts the characters of
the last occurrence that are still to be passed over. -/
def findPropertyFrom (property : Text) :
    Option Char → Nat → Nat → Text → Option Nat
  | _, _, _, [] => none
  | _, column, skip + 1, c :: cs =>
    findPropertyFrom property (some c) (column + c.utf8Size) skip cs
  | before, column, 0, c :: cs =>
    match Text.dropLead? property (c :: cs) with
    | some rest =>
      let standalone := !before.any fun b => Text.isAlphanumeric b || b == '-' || b == '_'
      if standalone && Text.startsWith [':'] rest.trimStart then some column
      else findPropertyFrom property (some c) (column + c.utf8Size) (property.length - 1) cs
    | none => findPropertyFrom property (some c) (column + c.utf8Size) 0 cs

/-- The column of `property` used as the name of a declaration on a line: not part of
a longer name, and followed by a colon. -/
def findProperty? (property line : Text) : Option Nat :=
  if property.isEmpty then none else findPropertyFrom property none 0 0 line

/-- Each line with the text of the rule that it belongs to, as far as it precedes the
rule's declarations; `header` is that text before the first line, and `inBlock` says
whether a block is open there. -/
def withHeaders (header : Text) (inBlock : Bool) : List Line → List (Line × Text)
  | [] => []
  | line :: rest =>
    let opens := Text.contains ['{'] line.text
    let closes := Text.contains ['}'] line.text
    let opened := if opens then header ++ line.text else header
    let kept := if closes then [] else opened
    let inside := (inBlock || opens) && !closes
    let current := if inside then kept else kept ++ line.text
    (line, current) :: withHeaders current inside rest

/-- The span of an overwritten property. -/
def placeRecord (region : Region) (record : Overwritten) : Span :=
  let place := (withHeaders [] false region.lines).findSome? fun (line, header) =>
    if Text.contains record.selector header then
      (findProperty? record.property line.text).map fun column =>
        line.spanAt column record.property.bytes
    else none
  place.getD region.anchor

/-- The spans of overwritten properties. -/
def placeOverwritten (region : Region) (records : List Overwritten) : List Span :=
  records.map (placeRecord region)

/-! ## Diagnostics -/

/-- The end of a message about something in a media block. -/
def mediaNote : Option Text → Text
  | some condition => " in @media ".toList ++ condition
  | none => []

/-- The wording for an unused selector. -/
def unusedMessage (record : Unused) : Text :=
  "Unused selector '".toList ++ record.selector ++ "'".toList ++ mediaNote record.media

/-- The wording for an overwritten property. -/
def overwrittenMessage (record : Overwritten) : Text :=
  "Property '".toList ++ record.property ++ "' of '".toList ++ record.selector ++
    "' is overwritten by a later rule".toList ++ mediaNote record.media

/-- The findings of a source as diagnostics, in order of their place. -/
def diagnostics (source : Text) (findings : Findings) : List Diagnostic :=
  let region := Region.ofSource source
  let unused := findings.unused.zipWith
    (fun record span => Diagnostic.ofCode .unusedSelector (unusedMessage record) span)
    (placeUnused region findings.unused)
  let overwritten := findings.overwritten.zipWith
    (fun record span => Diagnostic.ofCode .overwrittenProperty (overwrittenMessage record) span)
    (placeOverwritten region findings.overwritten)
  Diagnostic.sort (unused ++ overwritten)

/-- The span of the first occurrence of a text in a source. -/
def firstOccurrence (source part : Text) : Span :=
  match Text.offsetOf? part source with
  | some offset => .ofOffsets offset (offset + part.bytes)
  | none => Span.origin

/-- The code of a failure. -/
def failureCode : Failure → Code
  | .template _ => .templateError
  | .markup _ => .markupError
  | .missingStyle => .missingStyle
  | .stylesheet .. => .stylesheetError
  | .selector _ => .invalidSelector

/-- The place of a failure. -/
def failureSpan (source : Text) : Failure → Span
  | .template cause => firstOccurrence source cause.opening
  | .markup _ | .missingStyle => Span.origin
  | .stylesheet _ snippet => (Region.ofSource source).locate snippet
  | .selector rejection => (Region.ofSource source).locate rejection.selector

/-- A failure as a diagnostic. -/
def failureDiagnostic (source : Text) (failure : Failure) : Diagnostic :=
  .ofCode (failureCode failure) failure.message (failureSpan source failure)

end StyleAudit.Locate
