import StyleAudit.Text.Blank
import StyleAudit.Css.Token
import StyleAudit.Css.Stylesheet

/-!
# Reading a stylesheet

A stylesheet is read one token at a time: `Reader` is what has been read so far,
`Reader.step` takes one token, `Reader.finish` the end of input, and `parse` runs
through the tokens of a source.

- `Cause`, `ParseError`: why a source is refused, and where.
- `Frame`: a media block that is still open.
- `Phase`: the part of a rule that is being read.

A comment never changes the reader, and a broken token always stops it.
-/

namespace StyleAudit.Css

/-! ## Errors -/

/-- Why a stylesheet is refused. -/
inductive Cause where
  /-- A selector group met a semicolon, a closing brace or the end before its block. -/
  | missingOpenBrace
  /-- A block was never closed. -/
  | missingCloseBrace
  /-- A block without any selector before it. -/
  | missingSelector
  /-- A declaration that starts with its colon. -/
  | missingProperty
  /-- A declaration without a colon after its property. -/
  | missingColon (property : Text)
  /-- A closing brace outside of any block. -/
  | unexpectedCloseBrace
  /-- A comment that is never closed. -/
  | unterminatedComment
  /-- A string that is never closed. -/
  | unterminatedString
  /-- Text that is no token. -/
  | invalidToken (found : Text)
  deriving DecidableEq, Repr

/-- The wording of a cause. -/
def Cause.message : Cause → Text
  | missingOpenBrace => "missing '\x7b'".toList
  | missingCloseBrace => "missing '\x7d'".toList
  | missingSelector => "selector missing".toList
  | missingProperty => "property missing".toList
  | missingColon property => "property missing ':' after '".toList ++ property ++ "'".toList
  | unexpectedCloseBrace => "unexpected '\x7d'".toList
  | unterminatedComment => "unterminated comment".toList
  | unterminatedString => "unterminated string".toList
  | invalidToken found => "invalid token: ".toList ++ found

/-- A refusal: its cause and its place in the stylesheet. -/
structure ParseError where
  cause : Cause
  span : Span
  deriving DecidableEq, Repr

/-- What is wrong with a broken token shows in how it starts. -/
def brokenCause (text : Text) : Cause :=
  if Text.startsWith ['/', '*'] text then .unterminatedComment
  else if Text.startsWith ['\x22'] text || Text.startsWith ['\x27'] text then .unterminatedString
  else .invalidToken text

/-! ## What has been read -/

/-- A style rule whose block is open. -/
structure OpenRule where
  start : UInt32
  selectors : List Text
  /-- The opening brace. -/
  brace : Span
  declarations : List Declaration

/-- The part of a rule that is being read. -/
inductive Phase where
  /-- Between rules. -/
  | between
  /-- In a selector group: the selectors before the last comma, and the text after it. -/
  | selectors (start : UInt32) (depth : Nat) (done : List Text) (current : Text)
  /-- In a style rule's block, between declarations. -/
  | block (rule : OpenRule)
  /-- In a declaration, before its colon. -/
  | property (rule : OpenRule) (start : UInt32) (text : Text)
  /-- In a declaration, after its colon. -/
  | value (rule : OpenRule) (start : UInt32) (property : Text) (depth : Nat) (text : Text)
  /-- In an at-rule, before its block or end. -/
  | preface (start : UInt32) (name : Text) (depth : Nat) (text : Text)
  /-- In the block of an at-rule that is not read, `depth` braces deep. -/
  | sealedBlock (start : UInt32) (name text : Text) (brace : Span) (depth : Nat)

/-- A media block that is still open. -/
structure Frame where
  start : UInt32
  condition : Text
  /-- The opening brace. -/
  brace : Span
  /-- The rules that precede the block in its own list. -/
  before : List Rule

/-- What has been read: the open media blocks from the inside out, the finished
rules of the innermost one (or of the top level), and the part being read. -/
structure Reader where
  frames : List Frame
  rules : List Rule
  phase : Phase

namespace Reader

/-- Nothing read yet. -/
def start : Reader := ⟨[], [], .between⟩

/-- A reader that has just finished a rule. -/
def push (reader : Reader) (rule : Rule) : Reader :=
  { reader with rules := reader.rules ++ [rule], phase := .between }

/-- A closing brace between rules ends the innermost media block. -/
def closeMedia (reader : Reader) (token : Token) : Except ParseError Reader :=
  match reader.frames with
  | [] => .error ⟨.unexpectedCloseBrace, token.span⟩
  | frame :: outer =>
    .ok ⟨outer,
      frame.before ++ [.media frame.condition reader.rules ⟨frame.start, token.span.stop⟩], .between⟩

/-- A closing brace in a style rule's block ends the rule. -/
def closeRule (reader : Reader) (rule : OpenRule) (token : Token) : Reader :=
  reader.push (.style ⟨rule.selectors, rule.declarations, ⟨rule.start, token.span.stop⟩⟩)

/-- The selectors of a group: trimmed, empty ones dropped. -/
def tidySelectors (texts : List Text) : List Text :=
  (texts.map Text.trim).filter fun text => !text.isEmpty

/-- A rule with one more declaration. -/
def addDeclaration (rule : OpenRule) (start stop : UInt32) (property text : Text) : OpenRule :=
  { rule with declarations := rule.declarations ++ [⟨property, text.trim, ⟨start, stop⟩⟩] }

/-! ## One token -/

/-- A token in a selector group. -/
def stepSelectors (reader : Reader) (start : UInt32) (depth : Nat) (done : List Text)
    (current : Text) (token : Token) : Except ParseError Reader :=
  if depth = 0 ∧ token.kind = .openBrace then
    match tidySelectors (done ++ [current]) with
    | [] => .error ⟨.missingSelector, ⟨start, token.span.stop⟩⟩
    | selectors => .ok { reader with phase := .block ⟨start, selectors, token.span, []⟩ }
  else if depth = 0 ∧ token.kind = .comma then
    .ok { reader with phase := .selectors start depth (done ++ [current]) [] }
  else if depth = 0 ∧ (token.kind = .closeBrace ∨ token.kind = .semicolon) then
    .error ⟨.missingOpenBrace, ⟨start, token.span.stop⟩⟩
  else
    .ok { reader with
      phase := .selectors start (token.kind.depthAfter depth) done (current ++ token.text) }

/-- A token before the colon of a declaration. -/
def stepProperty (reader : Reader) (rule : OpenRule) (start : UInt32) (text : Text)
    (token : Token) : Except ParseError Reader :=
  match token.kind with
  | .colon =>
    match text.trim with
    | [] => .error ⟨.missingProperty, ⟨start, token.span.stop⟩⟩
    | property => .ok { reader with phase := .value rule start property 0 [] }
  | .semicolon | .closeBrace | .openBrace =>
    .error ⟨.missingColon text.trim, ⟨start, token.span.start⟩⟩
  | _ => .ok { reader with phase := .property rule start (text ++ token.text) }

/-- A token after the colon of a declaration. -/
def stepValue (reader : Reader) (rule : OpenRule) (start : UInt32) (property : Text)
    (depth : Nat) (text : Text) (token : Token) : Reader :=
  if depth = 0 ∧ token.kind = .semicolon then
    { reader with phase := .block (addDeclaration rule start token.span.stop property text) }
  else if depth = 0 ∧ token.kind = .closeBrace then
    reader.closeRule (addDeclaration rule start token.span.start property text) token
  else
    { reader with
      phase := .value rule start property (token.kind.depthAfter depth) (text ++ token.text) }

/-- A token in a style rule's block, between declarations. -/
def stepBlock (reader : Reader) (rule : OpenRule) (token : Token) : Except ParseError Reader :=
  match token.kind with
  | .whitespace | .semicolon => .ok reader
  | .closeBrace => .ok (reader.closeRule rule token)
  | _ => reader.stepProperty rule token.span.start [] token

/-- A token of an at-rule before its block or end. A closing brace ends a
statement and belongs to the enclosing block. -/
def stepPreface (reader : Reader) (start : UInt32) (name : Text) (depth : Nat) (text : Text)
    (token : Token) : Except ParseError Reader :=
  if depth = 0 ∧ token.kind = .openBrace then
    if Text.sameIgnoringCase name "media".toList then
      .ok ⟨⟨start, text.trim, token.span, reader.rules⟩ :: reader.frames, [], .between⟩
    else .ok { reader with phase := .sealedBlock start name text.trim token.span 1 }
  else if depth = 0 ∧ token.kind = .semicolon then
    .ok (reader.push (.atRule name text.trim false ⟨start, token.span.stop⟩))
  else if depth = 0 ∧ token.kind = .closeBrace then
    (reader.push (.atRule name text.trim false ⟨start, token.span.start⟩)).closeMedia token
  else
    .ok { reader with
      phase := .preface start name (token.kind.depthAfter depth) (text ++ token.text) }

/-- A token in a sealed block; only braces count. -/
def stepSealed (reader : Reader) (start : UInt32) (name text : Text) (brace : Span)
    (depth : Nat) (token : Token) : Reader :=
  match token.kind with
  | .openBrace => { reader with phase := .sealedBlock start name text brace (depth + 1) }
  | .closeBrace =>
    if depth ≤ 1 then reader.push (.atRule name text true ⟨start, token.span.stop⟩)
    else { reader with phase := .sealedBlock start name text brace (depth - 1) }
  | _ => reader

/-- A token between rules. -/
def stepBetween (reader : Reader) (token : Token) : Except ParseError Reader :=
  match token.kind with
  | .whitespace | .semicolon => .ok reader
  | .closeBrace => reader.closeMedia token
  | .atKeyword =>
    .ok { reader with phase := .preface token.span.start (token.text.dropWhile (· == '@')) 0 [] }
  | _ => reader.stepSelectors token.span.start 0 [] [] token

/-- Take one token. -/
def step (reader : Reader) (token : Token) : Except ParseError Reader :=
  if token.kind = .broken then .error ⟨brokenCause token.text, token.span⟩
  else if token.kind = .comment then .ok reader
  else
    match reader.phase with
    | .between => reader.stepBetween token
    | .selectors start depth done current => reader.stepSelectors start depth done current token
    | .block rule => reader.stepBlock rule token
    | .property rule start text => reader.stepProperty rule start text token
    | .value rule start property depth text =>
      .ok (reader.stepValue rule start property depth text token)
    | .preface start name depth text => reader.stepPreface start name depth text token
    | .sealedBlock start name text brace depth =>
      .ok (reader.stepSealed start name text brace depth token)

/-! ## The end of input -/

/-- The end of input between rules: every media block has to be closed. -/
def finishBetween (reader : Reader) : Except ParseError Stylesheet :=
  match reader.frames with
  | [] => .ok ⟨reader.rules⟩
  | frame :: _ => .error ⟨.missingCloseBrace, frame.brace⟩

/-- Take the end of input, which is at `stop`. -/
def finish (reader : Reader) (stop : UInt32) : Except ParseError Stylesheet :=
  match reader.phase with
  | .between => reader.finishBetween
  | .selectors start _ _ _ => .error ⟨.missingOpenBrace, ⟨start, stop⟩⟩
  | .block rule => .error ⟨.missingCloseBrace, rule.brace⟩
  | .property _ start text => .error ⟨.missingColon text.trim, ⟨start, stop⟩⟩
  | .value rule _ _ _ _ => .error ⟨.missingCloseBrace, rule.brace⟩
  | .preface start name depth text =>
    if depth = 0 then
      (reader.push (.atRule name text.trim false ⟨start, stop⟩)).finishBetween
    else .error ⟨.missingCloseBrace, ⟨start, stop⟩⟩
  | .sealedBlock _ _ _ brace _ => .error ⟨.missingCloseBrace, brace⟩

/-- Take a list of tokens. -/
def run (reader : Reader) : List Token → Except ParseError Reader
  | [] => .ok reader
  | token :: rest =>
    match reader.step token with
    | .ok next => next.run rest
    | .error error => .error error

end Reader

/-- Read a stylesheet. -/
def parse (source : Text) : Except ParseError Stylesheet :=
  match Reader.start.run (body source) with
  | .ok reader => reader.finish (endToken source).span.start
  | .error error => .error error

end StyleAudit.Css
