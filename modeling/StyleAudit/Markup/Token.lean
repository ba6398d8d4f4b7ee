import StyleAudit.Markup.Reference
import StyleAudit.Text.Blank

/-!
# Markup tokens

- `Token`: tags, runs of text, comments, document types and the end of input.
- `Lexing`: how text is read, which depends on the element that it stands in.
- `next`: the tokens at the start of a non-empty text, and the rest.
- `startsWithMistake`: whether a mistake is noticed before these tokens.

Line breaks are single line feeds (`tidyBreaks`), and a byte order mark at the start
is dropped. A tag that the input ends in is dropped with it.
-/

namespace StyleAudit.Markup

/-- An attribute; `space` is empty, or the namespace of a foreign attribute. -/
structure Attribute where
  space : String
  name : String
  value : Text
  deriving DecidableEq, Repr

/-- A start tag. -/
structure Tag where
  name : String
  attributes : List Attribute
  selfClosing : Bool
  deriving DecidableEq, Repr

/-- The tokens of a page. -/
inductive Token where
  /-- A document type; `legacy` says whether it asks for the oldest layout rules. -/
  | doctype (legacy : Bool)
  | openTag (tag : Tag)
  | closeTag (name : String)
  | comment
  /-- A run of blanks. -/
  | blank (text : Text)
  /-- A run of other characters. -/
  | text (text : Text)
  /-- The character 0. -/
  | null
  | ending
  deriving DecidableEq, Repr

/-- How text is read. -/
inductive Lexing where
  /-- Tags, comments and references. -/
  | data
  /-- References, but no tags other than the end tag of the element. -/
  | escapable (name : String)
  /-- Nothing but the end tag of the element. -/
  | raw (name : String)
  /-- Nothing but the end tag, which comments of scripts can hide. -/
  | script
  /-- Nothing. -/
  | plain
  deriving DecidableEq, Repr

/-! ## Characters -/

/-- Line breaks as single line feeds. -/
def tidyBreaks : Text → Text
  | '\r' :: '\n' :: cs => '\n' :: tidyBreaks cs
  | '\r' :: cs => '\n' :: tidyBreaks cs
  | c :: cs => c :: tidyBreaks cs
  | [] => []

/-- The input as it is read: no byte order mark, tidy line breaks. -/
def tidyInput (text : Text) : Text :=
  match tidyBreaks text with
  | c :: cs => if c.toNat == 0xFEFF then cs else c :: cs
  | [] => []

/-- A character of a name: capitals are made small, and 0 is replaced. -/
def nameChar (c : Char) : Char := if c == '\x00' then Text.replacement else c.toLower

/-- A character of text: 0 is replaced. -/
def plainChar (c : Char) : Char := if c == '\x00' then Text.replacement else c

/-- Text as tokens: its runs of blanks, of zeros and of other characters. -/
def textTokens : Text → List Token
  | [] => []
  | c :: cs =>
    if c == '\x00' then .null :: textTokens cs
    else
      match textTokens cs with
      | .blank run :: rest =>
        if Text.isSpace c then .blank (c :: run) :: rest else .text [c] :: .blank run :: rest
      | .text run :: rest =>
        if Text.isSpace c then .blank [c] :: .text run :: rest else .text (c :: run) :: rest
      | rest => if Text.isSpace c then .blank [c] :: rest else .text [c] :: rest

/-! ## Tags -/

/-- Where the reader of a tag is, after the tag's name. Names and values are collected
in reverse. -/
inductive TagState where
  | beforeName
  | inName (name : Text)
  | afterName (name : Text)
  | beforeValue (name : Text)
  | quoted (quote : Char) (name value : Text)
  | unquoted (name value : Text)
  | afterQuoted
  | slash

/-- Add an attribute unless one of that name is there; both texts are reversed. -/
def addAttribute (attributes : List Attribute) (name value : Text) : List Attribute :=
  let name := String.ofList (name.reverse.map nameChar)
  if attributes.any fun a => a.name == name then attributes
  else attributes ++ [⟨"", name, decode (value.reverse.map plainChar)⟩]

/-- Read the attributes of a tag: the attributes, whether the tag closes itself, and the
rest. None if the input ends first. -/
def readAttributes : TagState → List Attribute → Text → Option (List Attribute × Bool × Text)
  | _, _, [] => none
  | .beforeName, found, c :: cs =>
    if Text.isSpace c then readAttributes .beforeName found cs
    else if c == '/' then readAttributes .slash found cs
    else if c == '>' then some (found, false, cs)
    else readAttributes (.inName [c]) found cs
  | .inName name, found, c :: cs =>
    if Text.isSpace c then readAttributes (.afterName name) found cs
    else if c == '/' then readAttributes .slash (addAttribute found name []) cs
    else if c == '>' then some (addAttribute found name [], false, cs)
    else if c == '=' then readAttributes (.beforeValue name) found cs
    else readAttributes (.inName (c :: name)) found cs
  | .afterName name, found, c :: cs =>
    if Text.isSpace c then readAttributes (.afterName name) found cs
    else if c == '/' then readAttributes .slash (addAttribute found name []) cs
    else if c == '>' then some (addAttribute found name [], false, cs)
    else if c == '=' then readAttributes (.beforeValue name) found cs
    else readAttributes (.inName [c]) (addAttribute found name []) cs
  | .beforeValue name, found, c :: cs =>
    if Text.isSpace c then readAttributes (.beforeValue name) found cs
    else if c == '>' then some (addAttribute found name [], false, cs)
    else if c == '\x22' || c == '\x27' then readAttributes (.quoted c name []) found cs
    else readAttributes (.unquoted name [c]) found cs
  | .quoted quote name value, found, c :: cs =>
    if c == quote then readAttributes .afterQuoted (addAttribute found name value) cs
    else readAttributes (.quoted quote name (c :: value)) found cs
  | .unquoted name value, found, c :: cs =>
    if Text.isSpace c then readAttributes .beforeName (addAttribute found name value) cs
    else if c == '>' then some (addAttribute found name value, false, cs)
    else readAttributes (.unquoted name (c :: value)) found cs
  | .afterQuoted, found, c :: cs =>
    if Text.isSpace c then readAttributes .beforeName found cs
    else if c == '/' then readAttributes .slash found cs
    else if c == '>' then some (found, false, cs)
    else readAttributes (.inName [c]) found cs
  | .slash, found, c :: cs =>
    if c == '>' then some (found, true, cs)
    else if Text.isSpace c then readAttributes .beforeName found cs
    else if c == '/' then readAttributes .slash found cs
    else readAttributes (.inName [c]) found cs

/-- Whether a character ends the name of a tag. -/
def endsTagName (c : Char) : Bool := Text.isSpace c || c == '/' || c == '>'

/-- Read a tag from its name on. None if the input ends first. -/
def readTag? (text : Text) : Option (Tag × Text) :=
  let name := String.ofList ((text.takeWhile fun c => !endsTagName c).map nameChar)
  (readAttributes .beforeName [] (text.dropWhile fun c => !endsTagName c)).map
    fun (attributes, selfClosing, rest) => (⟨name, attributes, selfClosing⟩, rest)

/-- The tokens of a start tag, from its name on. -/
def startTag (text : Text) : List Token × Text :=
  match readTag? text with
  | some (tag, rest) => ([.openTag tag], rest)
  | none => ([], [])

/-- The tokens of an end tag, from its name on. -/
def endTag (text : Text) : List Token × Text :=
  match readTag? text with
  | some (tag, rest) => ([.closeTag tag.name], rest)
  | none => ([], [])

/-! ## Comments and document types -/

/-- What follows the end of a comment. -/
def afterComment : Text → Text
  | [] => []
  | '-' :: '-' :: '>' :: cs => cs
  | '-' :: '-' :: '!' :: '>' :: cs => cs
  | _ :: cs => afterComment cs

/-- A comment, after its opening. -/
def commentToken : Text → List Token × Text
  | '>' :: cs => ([.comment], cs)
  | '-' :: '>' :: cs => ([.comment], cs)
  | cs => ([.comment], afterComment cs)

/-- Something that is skipped up to the next `>`. -/
def bogusComment (text : Text) : List Token × Text :=
  ([.comment], (text.dropWhile (· != '>')).drop 1)

/-- A quoted identifier and what follows it; none if it is not closed or not there. -/
def identifier? : Text → Option (Text × Text)
  | c :: cs =>
    if c == '\x22' || c == '\x27' then
      match cs.dropWhile (· != c) with
      | _ :: rest => some (cs.takeWhile (· != c), rest.dropWhile Text.isSpace)
      | [] => none
    else none
  | [] => none

/-- Retired document types: owner and title of public identifiers that ask for the oldest
layout rules, whatever follows the title. -/
def retiredTypes : List String :=
  ["advasoft ltd//dtd html 3.0 aswedit + extensions", "as//dtd html 3.0 aswedit + extensions",
    "ietf//dtd html 2.0 level 1", "ietf//dtd html 2.0 level 2",
    "ietf//dtd html 2.0 strict level 1", "ietf//dtd html 2.0 strict level 2",
    "ietf//dtd html 2.0 strict", "ietf//dtd html 2.0", "ietf//dtd html 2.1e",
    "ietf//dtd html 3.0", "ietf//dtd html 3.2 final", "ietf//dtd html 3.2", "ietf//dtd html 3",
    "ietf//dtd html level 0", "ietf//dtd html level 1", "ietf//dtd html level 2",
    "ietf//dtd html level 3", "ietf//dtd html strict level 0", "ietf//dtd html strict level 1",
    "ietf//dtd html strict level 2", "ietf//dtd html strict level 3", "ietf//dtd html strict",
    "ietf//dtd html", "metrius//dtd metrius presentational",
    "microsoft//dtd internet explorer 2.0 html strict",
    "microsoft//dtd internet explorer 2.0 html", "microsoft//dtd internet explorer 2.0 tables",
    "microsoft//dtd internet explorer 3.0 html strict",
    "microsoft//dtd internet explorer 3.0 html", "microsoft//dtd internet explorer 3.0 tables",
    "netscape comm. corp.//dtd html", "netscape comm. corp.//dtd strict html",
    "o'reilly and associates//dtd html 2.0", "o'reilly and associates//dtd html extended 1.0",
    "o'reilly and associates//dtd html extended relaxed 1.0",
    "softquad software//dtd hotmetal pro 6.0::19990601::extensions to html 4.0",
    "softquad//dtd hotmetal pro 4.0::19971010::extensions to html 4.0",
    "spyglass//dtd html 2.0 extended", "sq//dtd html 2.0 hotmetal + extensions",
    "sun microsystems corp.//dtd hotjava html", "sun microsystems corp.//dtd hotjava strict html",
    "w3c//dtd html 3 1995-03-24", "w3c//dtd html 3.2 draft", "w3c//dtd html 3.2 final",
    "w3c//dtd html 3.2", "w3c//dtd html 3.2s draft", "w3c//dtd html 4.0 frameset",
    "w3c//dtd html 4.0 transitional", "w3c//dtd html experimental 19960712",
    "w3c//dtd html experimental 970421", "w3c//dtd w3 html", "w3o//dtd w3 html 3.0",
    "webtechs//dtd mozilla html 2.0", "webtechs//dtd mozilla html"]

/-- Document types that ask for the oldest layout rules if they have no system identifier. -/
def retiredWithoutSystem : List String :=
  ["w3c//dtd html 4.01 frameset", "w3c//dtd html 4.01 transitional"]

/-- Whole public identifiers that ask for the oldest layout rules. -/
def retiredPublicIds : List String :=
  ["-//w3o//dtd w3 html strict 3.0//en//", "-/w3c/dtd html 4.0 transitional/en", "html"]

/-- The system identifier that asks for the oldest layout rules. -/
def retiredSystemId : Text :=
  Text.join ['/'] (["http:", "", "www.ibm.com", "data", "dtd", "v11",
    "ibmxhtml1-transitional.dtd"].map String.toList)

/-- Whether a public identifier names one of the given document types. -/
def namesType (types : List String) (publicId : Text) : Bool :=
  types.any fun type => Text.startsWith ("-//".toList ++ type.toList ++ "//".toList) publicId

/-- Whether the identifiers of a document type ask for the oldest layout rules; their
capitals do not matter. -/
def asksForLegacy (publicId systemId : Option Text) : Bool :=
  let publicId := publicId.map Text.lower
  let systemId := systemId.map Text.lower
  systemId == some retiredSystemId ||
    publicId.any fun id =>
      retiredPublicIds.contains (String.ofList id) || namesType retiredTypes id ||
        (systemId.isNone && namesType retiredWithoutSystem id)

/-- Whether a document type asks for the oldest layout rules; the text is what stands
between `<!doctype` and its end. -/
def doctypeLegacy (text : Text) : Bool :=
  let text := text.dropWhile Text.isSpace
  let name := text.takeWhile fun c => !Text.isSpace c
  let rest := (text.dropWhile fun c => !Text.isSpace c).dropWhile Text.isSpace
  let ids := (rest.drop 6).dropWhile Text.isSpace
  if Text.lower name != "html".toList then true
  else if rest.isEmpty then false
  else if Text.sameIgnoringCase (rest.take 6) "public".toList then
    match identifier? ids with
    | none => true
    | some (publicId, []) => asksForLegacy (some publicId) none
    | some (publicId, more) =>
      match identifier? more with
      | none => true
      | some (systemId, _) => asksForLegacy (some publicId) (some systemId)
  else if Text.sameIgnoringCase (rest.take 6) "system".toList then
    match identifier? ids with
    | none => true
    | some (systemId, _) => asksForLegacy none (some systemId)
  else true

/-- A document type, after its keyword. -/
def doctypeToken (text : Text) : List Token × Text :=
  match text.dropWhile (· != '>') with
  | _ :: rest => ([.doctype (doctypeLegacy (text.takeWhile (· != '>')))], rest)
  | [] => ([.doctype true], [])

/-- Literal text of foreign content, after its opening. -/
def literalSection (text : Text) : List Token × Text :=
  match Text.cut? "]]>".toList text with
  | some (inside, rest) => (textTokens inside, rest)
  | none => (textTokens text, [])

/-- What follows `<!`. -/
def declaration (inForeign : Bool) (text : Text) : List Token × Text :=
  match text with
  | '-' :: '-' :: rest => commentToken rest
  | _ =>
    if Text.sameIgnoringCase (text.take 7) "doctype".toList then doctypeToken (text.drop 7)
    else if inForeign && Text.startsWith "[CDATA[".toList text then literalSection (text.drop 7)
    else bogusComment text

/-! ## Data -/

/-- What follows `<` in data. -/
def afterLess (inForeign : Bool) : Text → List Token × Text
  | '!' :: cs => declaration inForeign cs
  | '?' :: cs => bogusComment cs
  | '/' :: '>' :: cs => ([], cs)
  | '/' :: c :: cs => if c.isAlpha then endTag (c :: cs) else bogusComment (c :: cs)
  | ['/'] => ([.text ['<', '/']], [])
  | c :: cs => if c.isAlpha then startTag (c :: cs) else ([.text ['<']], c :: cs)
  | [] => ([.text ['<']], [])

/-- What follows `&` in data. -/
def afterAmpersand (text : Text) : List Token × Text :=
  match reference? false text with
  | some (value, length) => (textTokens value, text.drop length)
  | none => ([.text ['&']], text)

/-- Whether a character ends a run of text in data. -/
def endsRun (c : Char) : Bool := c == '<' || c == '&'

/-- The tokens at the start of data. -/
def dataTokens (inForeign : Bool) : Text → List Token × Text
  | [] => ([], [])
  | '<' :: cs => afterLess inForeign cs
  | '&' :: cs => afterAmpersand cs
  | cs => (textTokens (cs.takeWhile fun c => !endsRun c), cs.dropWhile fun c => !endsRun c)

/-! ## Text of special elements -/

/-- Whether a text starts with the end tag of an element: `</`, its name, and a
character that ends the name. -/
def isEndTagOf (name : String) (text : Text) : Bool :=
  match text with
  | '<' :: '/' :: cs =>
    Text.sameIgnoringCase (cs.take name.length) name.toList &&
      ((cs.drop name.length).head?).any endsTagName
  | _ => false

/-- The text before the end tag of an element, and the text from it on. -/
def untilEndTag (name : String) : Text → Text × Text
  | [] => ([], [])
  | c :: cs =>
    if isEndTagOf name (c :: cs) then ([], c :: cs)
    else
      let (inside, rest) := untilEndTag name cs
      (plainChar c :: inside, rest)

/-- How deep the reader of a script is in comments: not at all, in a comment, or in a
script inside a comment. -/
inductive ScriptState where
  | outside | escaped | doublyEscaped

/-- Whether a text starts with a script tag: `<script` and a character that ends it. -/
def isScriptTag (text : Text) : Bool :=
  Text.sameIgnoringCase (text.take 7) "<script".toList && ((text.drop 7).head?).any endsTagName

/-- The text of a script before its end tag, and the text from it on. -/
def untilScriptEnd : ScriptState → Text → Text × Text
  | _, [] => ([], [])
  | .outside, '<' :: '!' :: '-' :: '-' :: cs =>
    let (inside, rest) := untilScriptEnd .escaped ('-' :: '-' :: cs)
    ('<' :: '!' :: inside, rest)
  | .escaped, '-' :: '-' :: '>' :: cs | .doublyEscaped, '-' :: '-' :: '>' :: cs =>
    let (inside, rest) := untilScriptEnd .outside cs
    ('-' :: '-' :: '>' :: inside, rest)
  | state, c :: cs =>
    let ends := isEndTagOf "script" (c :: cs)
    match state, ends with
    | .outside, true | .escaped, true => ([], c :: cs)
    | .doublyEscaped, true =>
      let (inside, rest) := untilScriptEnd .escaped cs
      (c :: inside, rest)
    | .escaped, false =>
      let (inside, rest) := untilScriptEnd (if isScriptTag (c :: cs) then .doublyEscaped else .escaped) cs
      (plainChar c :: inside, rest)
    | state, false =>
      let (inside, rest) := untilScriptEnd state cs
      (plainChar c :: inside, rest)

/-- Replace the references of text; `skip` counts the characters of the last reference
that are still to be passed over. -/
def decodeTextFrom : Nat → Text → Text
  | _, [] => []
  | skip + 1, _ :: cs => decodeTextFrom skip cs
  | 0, c :: cs =>
    if c == '&' then
      match reference? false cs with
      | some (value, length) => value ++ decodeTextFrom length cs
      | none => c :: decodeTextFrom 0 cs
    else c :: decodeTextFrom 0 cs

/-- The tokens of an element's text: the text if there is some, else its end tag. -/
def elementText (inside : Text) (rest : Text) : List Token × Text :=
  if inside.isEmpty then endTag (rest.drop 2) else (textTokens inside, rest)

/-- Whether a text begins with a mistake that is noticed before its first token: an end tag
without a name, or a reference by number without a semicolon. -/
def startsWithMistake : Lexing → Text → Bool
  | .data, '<' :: '/' :: '>' :: _ => true
  | .data, '&' :: cs | .escapable _, '&' :: cs => isUnclosedNumber cs
  | _, _ => false

/-- The tokens at the start of a non-empty text, and the rest. -/
def next (lexing : Lexing) (inForeign : Bool) (text : Text) : List Token × Text :=
  match lexing with
  | .data => dataTokens inForeign text
  | .escapable name =>
    let (inside, rest) := untilEndTag name text
    elementText (decodeTextFrom 0 inside) rest
  | .raw name =>
    let (inside, rest) := untilEndTag name text
    elementText inside rest
  | .script =>
    let (inside, rest) := untilScriptEnd .outside text
    elementText inside rest
  | .plain => (textTokens (text.map plainChar), [])

end StyleAudit.Markup
