import StyleAudit.Text.Basic

/-!
# Sets of characters

A set of characters is given by the ranges of its code points. Larger sets are
written as lines of hexadecimal ranges, such as `30-39 41-5a aa`.

- `CharSet`: a list of ranges, with membership `CharSet.contains`.
- `CharSet.ofHex`: the set that such lines describe.
-/

namespace StyleAudit.Text

/-- The value of a hexadecimal digit. -/
def hexDigit? (c : Char) : Option Nat :=
  if c.isDigit then some (c.toNat - '0'.toNat)
  else if 'a' ≤ c ∧ c ≤ 'f' then some (c.toNat - 'a'.toNat + 10)
  else if 'A' ≤ c ∧ c ≤ 'F' then some (c.toNat - 'A'.toNat + 10)
  else none

/-- The number that hexadecimal digits write; other characters count as 0. -/
def hexValue (digits : Text) : Nat :=
  digits.foldl (fun value c => value * 16 + (hexDigit? c).getD 0) 0

/-- A set of characters: inclusive ranges of code points. -/
structure CharSet where
  ranges : List (Nat × Nat)

namespace CharSet

/-- Whether a character lies in one of the ranges. -/
def contains (set : CharSet) (c : Char) : Bool :=
  set.ranges.any fun range => range.1 ≤ c.toNat && c.toNat ≤ range.2

/-- The range that `a-b` or `a` describes. -/
def rangeOfHex (text : Text) : Nat × Nat :=
  let low := text.takeWhile (· != '-')
  match text.dropWhile (· != '-') with
  | _ :: high => (hexValue low, hexValue high)
  | [] => (hexValue low, hexValue low)

/-- Append the piece before a space to the pieces after it. -/
def splitStep (c : Char) (pieces : List Text) : List Text :=
  if c == ' ' then [] :: pieces
  else
    match pieces with
    | [] => [[c]]
    | piece :: rest => (c :: piece) :: rest

/-- The set that lines of ranges separated by single spaces describe. -/
def ofHex (lines : List String) : CharSet :=
  ⟨lines.flatMap fun line => (line.toList.foldr splitStep [[]]).map rangeOfHex⟩

end CharSet

end StyleAudit.Text
