import StyleAudit.Markup.NamedCharacter

/-!
# Character references

- `reference?`: the text that a reference after `&` stands for, and its length.
- `isUnclosedNumber`: whether a reference by number lacks its semicolon.
- `decode`: an attribute value with its references replaced.
-/

namespace StyleAudit.Markup

/-- The characters that the code points from 80 to 9f (hexadecimal) stand for. -/
def legacyCodes : List Nat :=
  [0x20AC, 0x81, 0x201A, 0x192, 0x201E, 0x2026, 0x2020, 0x2021, 0x2C6, 0x2030, 0x160, 0x2039,
    0x152, 0x8D, 0x17D, 0x8F, 0x90, 0x2018, 0x2019, 0x201C, 0x201D, 0x2022, 0x2013, 0x2014,
    0x2DC, 0x2122, 0x161, 0x203A, 0x153, 0x9D, 0x17E, 0x178]

/-- The character of a numeric reference. -/
def charOfCode (code : Nat) : Char :=
  if code = 0 ∨ 0x10FFFF < code ∨ (0xD800 ≤ code ∧ code ≤ 0xDFFF) then Text.replacement
  else if 0x80 ≤ code ∧ code ≤ 0x9F then Char.ofNat ((legacyCodes[code - 0x80]?).getD code)
  else Char.ofNat code

/-- A numeric reference whose digits follow `lead` characters after the ampersand;
a semicolon after the digits belongs to it. -/
def numericReference? (base : Nat) (lead : Nat) (isDigit : Char → Bool) (text : Text) :
    Option (Text × Nat) :=
  let digits := text.takeWhile isDigit
  if digits.isEmpty then none
  else
    let code := digits.foldl (fun value c => value * base + (Text.hexDigit? c).getD 0) 0
    let closed := if (text.drop digits.length).head? == some ';' then 1 else 0
    some ([charOfCode code], lead + digits.length + closed)

/-- A reference by name. In an attribute a name without semicolon does not count when a
letter, a digit or an equals sign follows. -/
def namedReference? (inAttribute : Bool) (text : Text) : Option (Text × Nat) :=
  match longestName? text with
  | none => none
  | some (name, value) =>
    let follows := ((text.drop name.length).head?).any fun c => c.isAlphanum || c == '='
    if inAttribute && name.getLast? != some ';' && follows then none
    else some (value, name.length)

/-- The text that the reference at the start of a text stands for, and its length in
characters. The text begins after the ampersand. -/
def reference? (inAttribute : Bool) : Text → Option (Text × Nat)
  | '#' :: 'x' :: cs => numericReference? 16 2 (fun c => (Text.hexDigit? c).isSome) cs
  | '#' :: 'X' :: cs => numericReference? 16 2 (fun c => (Text.hexDigit? c).isSome) cs
  | '#' :: cs => numericReference? 10 1 Char.isDigit cs
  | cs => namedReference? inAttribute cs

/-- Whether a text begins with a reference by number that has no semicolon. The text begins
after the ampersand. -/
def isUnclosedNumber (text : Text) : Bool :=
  text.head? == some '#' &&
    (reference? false text).any fun (_, length) => (text.take length).getLast? != some ';'

/-- Replace the references of an attribute value; `skip` counts the characters of the
last reference that are still to be passed over. -/
def decodeFrom : Nat → Text → Text
  | _, [] => []
  | skip + 1, _ :: cs => decodeFrom skip cs
  | 0, c :: cs =>
    if c == '&' then
      match reference? true cs with
      | some (value, length) => value ++ decodeFrom length cs
      | none => c :: decodeFrom 0 cs
    else c :: decodeFrom 0 cs

/-- An attribute value with its references replaced. -/
def decode (value : Text) : Text := decodeFrom 0 value

end StyleAudit.Markup
