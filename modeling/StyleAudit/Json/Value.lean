import StyleAudit.Text.Basic
import StyleAudit.Text.Quoted

/-!
# Writing JSON

- `Value`: the values that reports are made of.
- `Value.pretty`: their text, one item a line, each level indented by two blanks.
-/

namespace StyleAudit.Json

/-- A JSON value. -/
inductive Value where
  | text (content : Text)
  | number (n : Nat)
  | list (items : List Value)
  | object (fields : List (String × Value))

/-- A character as it stands in a JSON string. -/
def escape (c : Char) : Text :=
  match c with
  | '\x22' => ['\\', '\x22']
  | '\\' => ['\\', '\\']
  | '\x08' => ['\\', 'b']
  | '\x0c' => ['\\', 'f']
  | '\n' => ['\\', 'n']
  | '\r' => ['\\', 'r']
  | '\t' => ['\\', 't']
  | _ =>
    if c.toNat < 0x20 then
      "\\u00".toList ++ (if c.toNat < 0x10 then ['0'] else []) ++ Text.hex c.toNat
    else [c]

/-- A JSON string. -/
def quoted (text : Text) : Text := '\x22' :: (text.flatMap escape ++ ['\x22'])

mutual

/-- The text of a value whose further lines are indented by `indent` blanks. -/
def Value.write (indent : Nat) : Value → Text
  | .text content => quoted content
  | .number n => Nat.toDigits 10 n
  | .list [] => "[]".toList
  | .list (item :: items) =>
    "[\n".toList ++ List.replicate (indent + 2) ' ' ++ item.write (indent + 2) ++
      Value.writeItems (indent + 2) items ++ '\n' :: List.replicate indent ' ' ++ [']']
  | .object [] => "\x7b\x7d".toList
  | .object ((key, value) :: fields) =>
    "\x7b\n".toList ++ List.replicate (indent + 2) ' ' ++ quoted key.toList ++ ": ".toList ++
      value.write (indent + 2) ++ Value.writeFields (indent + 2) fields ++
      '\n' :: List.replicate indent ' ' ++ ['\x7d']

/-- The further items of a list. -/
def Value.writeItems (indent : Nat) : List Value → Text
  | [] => []
  | item :: items =>
    ",\n".toList ++ List.replicate indent ' ' ++ item.write indent ++ Value.writeItems indent items

/-- The further fields of an object. -/
def Value.writeFields (indent : Nat) : List (String × Value) → Text
  | [] => []
  | (key, value) :: fields =>
    ",\n".toList ++ List.replicate indent ' ' ++ quoted key.toList ++ ": ".toList ++
      value.write indent ++ Value.writeFields indent fields

end

/-- The text of a value. -/
def Value.pretty (value : Value) : Text := value.write 0

end StyleAudit.Json
