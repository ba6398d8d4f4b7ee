import StyleAudit.Text.Basic

/-!
# Faults of JSON texts

- `Cause`: what is wrong; `Cause.kind`: whether the text ends too early, is no JSON, or does
  not say what is wanted.
- `Fault`: a cause with the line and column at which it was noticed.
-/

namespace StyleAudit.Json

/-- What is wrong with a JSON text. -/
inductive Cause where
  | endInValue
  | endInObject
  | endInList
  | endInString
  | expectedValue
  | expectedIdent
  | expectedColon
  | expectedCommaOrBrace
  | expectedCommaOrBracket
  | keyNotString
  | trailingComma
  | trailingCharacters
  | invalidNumber
  | numberOutOfRange
  | invalidEscape
  | cutEscape
  | loneSurrogate
  | controlCharacter
  /-- The text is JSON, but not what is wanted. -/
  | data (message : Text)
  deriving DecidableEq, Repr

/-- Kinds of causes. -/
inductive Kind where
  | ending | malformed | data
  deriving DecidableEq, Repr

namespace Cause

/-- The kind of a cause. -/
def kind : Cause → Kind
  | endInValue | endInObject | endInList | endInString => .ending
  | data _ => .data
  | _ => .malformed

/-- The wording of a cause. -/
def message : Cause → Text
  | endInValue => "EOF while parsing a value".toList
  | endInObject => "EOF while parsing an object".toList
  | endInList => "EOF while parsing a list".toList
  | endInString => "EOF while parsing a string".toList
  | expectedValue => "expected value".toList
  | expectedIdent => "expected ident".toList
  | expectedColon => "expected `:`".toList
  | expectedCommaOrBrace => "expected `,` or `\x7d`".toList
  | expectedCommaOrBracket => "expected `,` or `]`".toList
  | keyNotString => "key must be a string".toList
  | trailingComma => "trailing comma".toList
  | trailingCharacters => "trailing characters".toList
  | invalidNumber => "invalid number".toList
  | numberOutOfRange => "number out of range".toList
  | invalidEscape => "invalid escape".toList
  | cutEscape => "unexpected end of hex escape".toList
  | loneSurrogate => "lone leading surrogate in hex escape".toList
  | controlCharacter =>
    "control character (\\u0000-\\u001F) found while parsing a string".toList
  | data message => message

end Cause

/-- A cause with its place: lines count from 1, columns are the bytes read on the line. -/
structure Fault where
  cause : Cause
  line : Nat
  column : Nat
  deriving DecidableEq, Repr

namespace Fault

/-- The wording of a fault with its place. -/
def message (fault : Fault) : Text :=
  fault.cause.message ++ " at line ".toList ++ Nat.toDigits 10 fault.line ++ " column ".toList ++
    Nat.toDigits 10 fault.column

/-- The line and column after the first `n` bytes of a text. -/
def placeAt : Nat → Text → Nat × Nat → Nat × Nat
  | 0, _, place => place
  | _, [], place => place
  | n + 1, c :: cs, (line, column) =>
    if c == '\n' then placeAt n cs (line + 1, 0)
    else placeAt (n + 1 - c.utf8Size) cs (line, column + min (n + 1) c.utf8Size)

/-- A cause noticed after the first `n` bytes of a text. -/
def ofOffset (text : Text) (cause : Cause) (n : Nat) : Fault :=
  let (line, column) := placeAt n text (1, 0)
  ⟨cause, line, column⟩

end Fault

end StyleAudit.Json
