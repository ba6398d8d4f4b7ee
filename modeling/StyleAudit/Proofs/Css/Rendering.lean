import StyleAudit.Css.Parser

/-!
# Written stylesheets

A sketch is a rule without places, together with the text of a block that is not read. It is written
as a list of pieces with a blank after each: `.a , .b { color : red ; }`.

- `Sketch`, `Sketch.rule`: a rule to be written, and the rule it stands for.
- `Sketch.pieces`, `render`: how it is written.
- `IsClean`, `IsFreeOf`: texts whose tokens do not interfere with what surrounds them.
- `Sketch.IsWellFormed`: all texts of a sketch can stand where they are written.
-/

namespace StyleAudit.Css

/-! ## Texts that can be written -/

/-- The nesting depth after some tokens. -/
def depthThrough (depth : Nat) (lexemes : List Lexeme) : Nat :=
  lexemes.foldl (fun depth lexeme => lexeme.kind.depthAfter depth) depth

/-- No token of these kinds stands at depth 0, if the first one stands at `depth`. -/
def freeAtTop (kinds : List Kind) : Nat → List Lexeme → Bool
  | _, [] => true
  | depth, lexeme :: rest =>
    (depth ≠ 0 || lexeme.kind ∉ kinds) && freeAtTop kinds (lexeme.kind.depthAfter depth) rest

/-- Braces are nested, `depth` of them being open before. -/
def bracesNested : Nat → List Lexeme → Bool
  | depth, [] => depth = 0
  | depth, lexeme :: rest =>
    match lexeme.kind with
    | .openBrace => bracesNested (depth + 1) rest
    | .closeBrace => depth ≠ 0 && bracesNested (depth - 1) rest
    | _ => bracesNested depth rest

/-- A text without outer blanks, comments and broken tokens that closes what it opens. -/
structure IsClean (text : Text) : Prop where
  trimmed : text.trim = text
  readable : ∀ lexeme ∈ lexemes text, lexeme.kind ≠ .comment ∧ lexeme.kind ≠ .broken
  closed : depthThrough 0 (lexemes text) = 0

/-- No token of the text is broken. -/
def IsReadable (text : Text) : Prop := ∀ lexeme ∈ lexemes text, lexeme.kind ≠ .broken

/-- A clean text without tokens of these kinds at depth 0. -/
structure IsFreeOf (kinds : List Kind) (text : Text) : Prop extends IsClean text where
  free : freeAtTop kinds 0 (lexemes text) = true

/-- A text that can stand in a selector group. -/
structure IsSelector (text : Text) : Prop
    extends IsFreeOf [.comma, .semicolon, .openBrace, .closeBrace] text where
  nonempty : text ≠ []

/-- A text that can stand before the colon of a declaration. -/
structure IsProperty (text : Text) : Prop where
  trimmed : text.trim = text
  nonempty : text ≠ []
  readable : ∀ lexeme ∈ lexemes text,
    lexeme.kind ∉ [.comment, .broken, .colon, .semicolon, .openBrace, .closeBrace]

/-- A text that can stand between the name and the block or end of an at-rule. -/
abbrev IsPreface (text : Text) : Prop := IsFreeOf [.semicolon, .openBrace, .closeBrace] text

/-- A letter, `_` or `-`, then such characters and digits. -/
def IsName : Text → Prop
  | [] => False
  | c :: cs => isKeywordStart c = true ∧ cs.all Text.isNameChar = true

/-! ### The conditions can be checked -/

instance (text : Text) : Decidable (IsClean text) :=
  decidable_of_iff
    (text.trim = text ∧
      (∀ lexeme ∈ lexemes text, lexeme.kind ≠ .comment ∧ lexeme.kind ≠ .broken) ∧
      depthThrough 0 (lexemes text) = 0)
    ⟨fun ⟨trimmed, readable, closed⟩ => ⟨trimmed, readable, closed⟩,
      fun h => ⟨h.trimmed, h.readable, h.closed⟩⟩

instance (text : Text) : Decidable (IsReadable text) :=
  inferInstanceAs (Decidable (∀ lexeme ∈ lexemes text, lexeme.kind ≠ .broken))

instance (kinds : List Kind) (text : Text) : Decidable (IsFreeOf kinds text) :=
  decidable_of_iff (IsClean text ∧ freeAtTop kinds 0 (lexemes text) = true)
    ⟨fun ⟨clean, free⟩ => ⟨clean, free⟩, fun h => ⟨h.toIsClean, h.free⟩⟩

instance (text : Text) : Decidable (IsSelector text) :=
  decidable_of_iff
    (IsFreeOf [.comma, .semicolon, .openBrace, .closeBrace] text ∧ text ≠ [])
    ⟨fun ⟨free, nonempty⟩ => ⟨free, nonempty⟩, fun h => ⟨h.toIsFreeOf, h.nonempty⟩⟩

instance (text : Text) : Decidable (IsProperty text) :=
  decidable_of_iff
    (text.trim = text ∧ text ≠ [] ∧ ∀ lexeme ∈ lexemes text,
      lexeme.kind ∉ [.comment, .broken, .colon, .semicolon, .openBrace, .closeBrace])
    ⟨fun ⟨trimmed, nonempty, readable⟩ => ⟨trimmed, nonempty, readable⟩,
      fun h => ⟨h.trimmed, h.nonempty, h.readable⟩⟩

instance : DecidablePred IsName
  | [] => inferInstanceAs (Decidable False)
  | c :: cs =>
    inferInstanceAs (Decidable (isKeywordStart c = true ∧ cs.all Text.isNameChar = true))

/-! ## Sketches -/

/-- A rule to be written. -/
inductive Sketch where
  /-- A selector group with properties and values. -/
  | style (selectors : List Text) (declarations : List (Text × Text))
  /-- A media block with the rules inside it. -/
  | media (condition : Text) (rules : List Sketch)
  /-- An at-rule without a block. -/
  | statement (name preface : Text)
  /-- An at-rule with a block that is not read. -/
  | sealed (name preface content : Text)

namespace Sketch

mutual

/-- The rule that a sketch stands for, at no place. -/
def rule : Sketch → Rule
  | style selectors declarations =>
    .style ⟨selectors, declarations.map fun declaration =>
      ⟨declaration.1, declaration.2, .origin⟩, .origin⟩
  | media condition rules => .media condition (rulesOf rules) .origin
  | statement name preface => .atRule name preface false .origin
  | .sealed name preface _ => .atRule name preface true .origin

/-- The rules that sketches stand for. -/
def rulesOf : List Sketch → List Rule
  | [] => []
  | sketch :: rest => sketch.rule :: rulesOf rest

end

/-- A selector group: commas between its selectors. -/
def groupPieces : List Text → List Text
  | [] => []
  | first :: others => first :: others.flatMap fun selector => [[','], selector]

/-- A declaration with its colon and semicolon. -/
def declarationPieces (declaration : Text × Text) : List Text :=
  [declaration.1, [':'], declaration.2, [';']]

mutual

/-- The pieces of a written rule. -/
def pieces : Sketch → List Text
  | style selectors declarations =>
    groupPieces selectors ++ [['{']] ++ declarations.flatMap declarationPieces ++ [['}']]
  | media condition rules => ["@media".toList, condition, ['{']] ++ piecesOf rules ++ [['}']]
  | statement name preface => ['@' :: name, preface, [';']]
  | .sealed name preface content => ['@' :: name, preface, ['{'], content, ['}']]

/-- The pieces of written rules. -/
def piecesOf : List Sketch → List Text
  | [] => []
  | sketch :: rest => sketch.pieces ++ piecesOf rest

end

/-- All texts of a sketch can stand where they are written. -/
inductive IsWellFormed : Sketch → Prop
  | style {first : Text} {others : List Text} {declarations : List (Text × Text)}
      (selectors : ∀ selector ∈ first :: others, IsSelector selector)
      (noKeyword : ∀ lexeme ∈ (lexemes first).head?, lexeme.kind ≠ .atKeyword)
      (properties : ∀ declaration ∈ declarations, IsProperty declaration.1)
      (values : ∀ declaration ∈ declarations, IsFreeOf [.semicolon, .closeBrace] declaration.2) :
      IsWellFormed (style (first :: others) declarations)
  | media {condition : Text} {rules : List Sketch} (isPreface : IsPreface condition)
      (inside : ∀ rule ∈ rules, IsWellFormed rule) : IsWellFormed (media condition rules)
  | statement {name preface : Text} (isName : IsName name) (isPreface : IsPreface preface) :
      IsWellFormed (statement name preface)
  | sealed {name preface content : Text} (isName : IsName name)
      (notMedia : Text.sameIgnoringCase name "media".toList = false) (isPreface : IsPreface preface)
      (readable : IsReadable content)
      (nested : bracesNested 0 (lexemes content) = true) :
      IsWellFormed (.sealed name preface content)

end Sketch

/-! ## The written text -/

/-- Pieces with a blank after each. -/
def spaced (pieces : List Text) : Text := pieces.flatMap fun piece => piece ++ [' ']

/-- The text of a stylesheet. -/
def render (sketches : List Sketch) : Text := spaced (Sketch.piecesOf sketches)

end StyleAudit.Css
