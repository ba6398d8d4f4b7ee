import StyleAudit.Selector.Token
import StyleAudit.Text.Quoted

/-!
# Faults of selectors

- `Fault`: why a selector cannot be read.
- `Fault.message`: its text. Common faults have a sentence; the others are shown as an
  `Outline`, one part a line.
-/

namespace StyleAudit.Selector

/-- Why a selector cannot be read. -/
inductive Fault where
  | endOfInput
  | unexpected (token : Token)
  | pseudoNeedsName (token : Token)
  | noSelector
  | danglingCombinator
  /-- Something that may not stand inside the bracket it stands in. -/
  | misplaced
  | unsupportedPseudo (name : Text)
  | unknownSpace (name : Text)
  | badNameAfterBar (token : Token)
  | badAttributeNameAfterBar (token : Token)
  | attributeNeedsBar (token : Token)
  | attributeNeedsName (token : Token)
  | badComparison (token : Token)
  | badValue (token : Token)
  | classNeedsName (token : Token)
  deriving Repr

/-! ## Words in messages -/

namespace Numeral

/-- The number as it stands in a sentence. A written sign is shown once more before a
number that is not positive. -/
def text (n : Numeral) : Text :=
  let value := Binary.ofFloat32 n.value
  if n.signed then (if value.isPositive then '+' else '-') :: value.plain else value.plain

end Numeral

/-- A bracket as it stands in a sentence. -/
def Bracket.text (opening : Bool) : Bracket → Text
  | .round => if opening then "<(".toList else "<)".toList
  | .square => if opening then "<[".toList else "<]".toList
  | .curly => if opening then "<\x7b".toList else "<\x7d".toList

/-- A word as it stands in a sentence. -/
def Token.text : Token → Text
  | .ident name | .url name => name
  | .atKeyword name => '@' :: name
  | .hash name | .idHash name => '#' :: name
  | .quoted text => '\x22' :: text ++ ['\x22']
  | .badQuoted text => "<Bad String ".toList ++ Text.quoted text ++ ['>']
  | .badUrl text => "<Bad URL ".toList ++ Text.quoted text ++ ['>']
  | .delim c => [c]
  | .number n => n.text
  | .percentage n => n.text ++ ['%']
  | .dimension n unit => n.text ++ unit
  | .blank _ => [' ']
  | .colon => [':']
  | .semicolon => [';']
  | .comma => [',']
  | .wordMatch => "~=".toList
  | .dashMatch => "|=".toList
  | .startMatch => "^=".toList
  | .endMatch => "$=".toList
  | .partMatch => "*=".toList
  | .commentOpen => "<!--".toList
  | .commentClose => "-->".toList
  | .function name => name ++ "()".toList
  | .opening bracket => bracket.text true
  | .closing bracket => bracket.text false

/-! ## Outlines -/

/-- A value shown part by part. -/
inductive Outline where
  | leaf (text : Text)
  | call (name : String) (part : Outline)
  | fields (name : String) (parts : List (String × Outline))

mutual

/-- The text of an outline; its further lines are indented by `indent` blanks. -/
def Outline.write (indent : Nat) : Outline → Text
  | .leaf text => text
  | .call name part =>
    name.toList ++ "(\n".toList ++ List.replicate (indent + 4) ' ' ++ part.write (indent + 4) ++
      ",\n".toList ++ List.replicate indent ' ' ++ [')']
  | .fields name parts =>
    name.toList ++ " \x7b\n".toList ++ Outline.writeFields (indent + 4) parts ++
      List.replicate indent ' ' ++ ['\x7d']

/-- The lines of fields. -/
def Outline.writeFields (indent : Nat) : List (String × Outline) → Text
  | [] => []
  | (label, part) :: rest =>
    List.replicate indent ' ' ++ label.toList ++ ": ".toList ++ part.write indent ++ ",\n".toList ++
      Outline.writeFields indent rest

end

namespace Outline

/-- A name by itself. -/
def word (name : String) : Outline := leaf name.toList

/-- A quoted text. -/
def text (name : String) (text : Text) : Outline := call name (leaf (Text.quoted text))

/-- The fields of a number; `label` names its value. -/
def number (n : Numeral) (label : String) : List (String × Outline) :=
  let whole :=
    match n.whole with
    | some value => call "Some" (leaf (toString value).toList)
    | none => word "None"
  [("has_sign", word (if n.signed then "true" else "false")),
    (label, leaf ((Binary.ofFloat32 n.value).compact ⟨3, false⟩)), ("int_value", whole)]

/-- The outline of a bracket. -/
def bracket : Bool → Bracket → Outline
  | true, .round => word "ParenthesisBlock"
  | true, .square => word "SquareBracketBlock"
  | true, .curly => word "CurlyBracketBlock"
  | false, .round => word "CloseParenthesis"
  | false, .square => word "CloseSquareBracket"
  | false, .curly => word "CloseCurlyBracket"

/-- The outline of a word. -/
def ofToken : Token → Outline
  | .ident name => text "Ident" name
  | .atKeyword name => text "AtKeyword" name
  | .hash name => text "Hash" name
  | .idHash name => text "IDHash" name
  | .quoted content => text "QuotedString" content
  | .badQuoted content => text "BadString" content
  | .url content => text "UnquotedUrl" content
  | .badUrl content => text "BadUrl" content
  | .delim c => call "Delim" (leaf (Text.quotedChar c))
  | .number n => fields "Number" (number n "value")
  | .percentage n => fields "Percentage" (number n "unit_value")
  | .dimension n unit => fields "Dimension" (number n "value" ++ [("unit", leaf (Text.quoted unit))])
  | .blank content => text "WhiteSpace" content
  | .colon => word "Colon"
  | .semicolon => word "Semicolon"
  | .comma => word "Comma"
  | .wordMatch => word "IncludeMatch"
  | .dashMatch => word "DashMatch"
  | .startMatch => word "PrefixMatch"
  | .endMatch => word "SuffixMatch"
  | .partMatch => word "SubstringMatch"
  | .commentOpen => word "CDO"
  | .commentClose => word "CDC"
  | .function name => text "Function" name
  | .opening kind => bracket true kind
  | .closing kind => bracket false kind

/-- The message with an outline. -/
def message (outline : Outline) : Text :=
  "Unexpected error occurred. Please report this to the developer\n".toList ++ outline.write 0

end Outline

/-- The text of a fault. -/
def Fault.message : Fault → Text
  | .endOfInput => "Unexpected EOL".toList
  | .unexpected token =>
    "Token ".toList ++ Text.quoted token.text ++ " was not expected".toList
  | .pseudoNeedsName token =>
    "Expected identity for pseudoelement, got ".toList ++ Text.quoted token.text ++ " instead".toList
  | .noSelector => (Outline.word "EmptySelector").message
  | .danglingCombinator => (Outline.word "DanglingCombinator").message
  | .misplaced => (Outline.word "InvalidState").message
  | .unsupportedPseudo name => (Outline.text "UnsupportedPseudoClassOrElement" name).message
  | .unknownSpace name => (Outline.text "ExpectedNamespace" name).message
  | .badNameAfterBar token =>
    (Outline.call "ExplicitNamespaceUnexpectedToken" (.ofToken token)).message
  | .badAttributeNameAfterBar token =>
    (Outline.call "InvalidQualNameInAttr" (.ofToken token)).message
  | .attributeNeedsBar token => (Outline.call "ExpectedBarInAttr" (.ofToken token)).message
  | .attributeNeedsName token =>
    (Outline.call "NoQualifiedNameInAttributeSelector" (.ofToken token)).message
  | .badComparison token =>
    (Outline.call "UnexpectedTokenInAttributeSelector" (.ofToken token)).message
  | .badValue token => (Outline.call "BadValueInAttr" (.ofToken token)).message
  | .classNeedsName token => (Outline.call "ClassNeedsIdent" (.ofToken token)).message

end StyleAudit.Selector
