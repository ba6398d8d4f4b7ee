import StyleAudit.Text.Basic

/-!
# Numbers as decimal text

A binary floating-point number is written with the fewest digits that still read back as
the same number; of two such decimals the nearer one is taken.

- `Binary`: a decoded floating-point number.
- `Binary.shortest`: its digits and their exponent.
- `Binary.plain`, `Binary.compact`: its text without an exponent, and with one where the
  number is large or small.
-/

namespace StyleAudit

/-- What a floating-point number is, its sign aside. -/
inductive Magnitude where
  | infinite
  | notANumber
  /-- The number `m * 2 ^ q`; `narrow` says that the next smaller number is only half as far
  away as the next larger one. -/
  | finite (m : Nat) (q : Int) (narrow : Bool)
  deriving DecidableEq, Repr

/-- A floating-point number. -/
structure Binary where
  negative : Bool
  magnitude : Magnitude
  deriving DecidableEq, Repr

/-- Digits and an exponent: `digits * 10 ^ exponent`. -/
structure Decimal where
  digits : Nat
  exponent : Int
  deriving DecidableEq, Repr

namespace Binary

/-- Decode a number of `fraction` bits after the point and `width` bits of exponent. -/
def ofBits (fraction width bits : Nat) : Binary :=
  let m := bits % Nat.pow 2 fraction
  let e := bits / Nat.pow 2 fraction % Nat.pow 2 width
  let bias := Nat.pow 2 (width - 1) - 1 + fraction
  let magnitude :=
    if e == Nat.pow 2 width - 1 then if m == 0 then .infinite else .notANumber
    else if e == 0 then .finite m (1 - (bias : Int)) false
    else .finite (Nat.pow 2 fraction + m) (e - (bias : Int)) (m == 0 && e > 1)
  ⟨bits / Nat.pow 2 (fraction + width) % 2 == 1, magnitude⟩

/-- Decode a number of double precision. -/
def ofFloat (x : Float) : Binary := ofBits 52 11 x.toBits.toNat

/-- Decode a number of single precision. -/
def ofFloat32 (x : Float32) : Binary := ofBits 23 8 x.toBits.toNat

/-- Whether a number is above zero. -/
def isPositive (x : Binary) : Bool :=
  match x.magnitude with
  | .infinite => !x.negative
  | .notANumber => false
  | .finite m _ _ => !x.negative && m != 0

/-- How often 10 goes into a quotient below 1 before it is at least 1. -/
def leadingZeros : Nat → Nat → Nat → Nat
  | 0, _, _ => 0
  | fuel + 1, num, den => if num * 10 ≥ den then 0 else leadingZeros fuel (num * 10) den + 1

/-- The position of the point of `num / den`: the number of digits before it, or minus the
number of zeros that follow it. -/
def pointOf (num den : Nat) : Int :=
  if num ≥ den then ((Nat.toDigits 10 (num / den)).length : Nat) else -(leadingZeros 400 num den : Nat)

/-- The better of the two decimals of `count` digits next to the number, if one of them lies
between `low` and `high`. All three are in units of `1 / den`. -/
def onGrid? (value low high den : Nat) (closed : Bool) (point : Int) (count : Nat) :
    Option Decimal :=
  let exponent := point - count
  -- Scale so that the grid is the whole numbers.
  let up := Nat.pow 10 (-exponent).toNat
  let scale := den * Nat.pow 10 exponent.toNat
  let inside (d : Nat) : Bool :=
    let x := d * scale
    if closed then low * up ≤ x && x ≤ high * up else low * up < x && x < high * up
  let below := value * up / scale
  let rest := value * up % scale
  match inside below, inside (below + 1) with
  | true, true => some ⟨if rest * 2 < scale then below else below + 1, exponent⟩
  | true, false => some ⟨below, exponent⟩
  | false, true => some ⟨below + 1, exponent⟩
  | false, false => none

/-- The first of the counts from `count` on, at most `limit` of them, with enough digits. -/
def search (value low high den : Nat) (closed : Bool) (point : Int) : Nat → Nat → Decimal
  | 0, _ => ⟨0, 0⟩
  | limit + 1, count =>
    (onGrid? value low high den closed point count).getD
      (search value low high den closed point limit (count + 1))

/-- The shortest decimal of `m * 2 ^ q`. -/
def shortest (m : Nat) (q : Int) (narrow : Bool) : Decimal :=
  if m == 0 then ⟨0, 0⟩
  else
    -- In units of a quarter of the last place, the neighbours are two or one away.
    let up := Nat.pow 2 (q - 2).toNat
    let den := Nat.pow 2 (2 - q).toNat
    let value := 4 * m * up
    search value ((4 * m - if narrow then 1 else 2) * up) ((4 * m + 2) * up) den (m % 2 == 0)
      (pointOf value den) 20 1

end Binary

namespace Decimal

/-- The digits of a decimal, and where its point is, counted from their start. -/
def parts (d : Decimal) : Text × Int :=
  let digits := Nat.toDigits 10 d.digits
  let kept := (digits.reverse.dropWhile (· == '0')).reverse
  (if kept.isEmpty then ['0'] else kept,
    if kept.isEmpty then 1 else (digits.length : Nat) + d.exponent)

/-- The text of a decimal without an exponent; whole numbers have no point. -/
def plain (d : Decimal) : Text :=
  let (digits, point) := d.parts
  if point ≤ 0 then "0.".toList ++ List.replicate (-point).toNat '0' ++ digits
  else if point.toNat ≥ digits.length then
    digits ++ List.replicate (point.toNat - digits.length) '0'
  else digits.take point.toNat ++ '.' :: digits.drop point.toNat

/-- The text of a decimal with an exponent; `plus` says whether one above zero has a sign. -/
def scientific (plus : Bool) (d : Decimal) : Text :=
  let (digits, point) := d.parts
  let fraction := digits.drop 1
  let exponent := point - 1
  digits.take 1 ++ (if fraction.isEmpty then [] else '.' :: fraction) ++
    'e' :: (if exponent < 0 then ['-'] else if plus then ['+'] else []) ++
      Nat.toDigits 10 exponent.natAbs

end Decimal

namespace Binary

/-- Text of a number, with a given text of finite ones. -/
def write (finite : Decimal → Text) (x : Binary) : Text :=
  let sign := if x.negative then ['-'] else []
  match x.magnitude with
  | .notANumber => "NaN".toList
  | .infinite => sign ++ "inf".toList
  | .finite m q narrow => sign ++ finite (shortest m q narrow)

/-- Text without an exponent; whole numbers have no point. -/
def plain (x : Binary) : Text := x.write Decimal.plain

/-- Text with a point after whole numbers. -/
def pointed (text : Text) : Text := if List.contains text '.' then text else text ++ ".0".toList

/-- How numbers with exponents are written. -/
structure ExponentStyle where
  /-- How many zeros may follow the point before an exponent is written. -/
  zeros : Nat
  /-- Whether exponents above zero have a sign. -/
  plus : Bool
  deriving DecidableEq, Repr

/-- Text with a point, or with an exponent if the number is at least `10 ^ 16` or if too many
zeros would follow the point. -/
def compact (style : ExponentStyle) (x : Binary) : Text :=
  x.write fun d =>
    let point := d.parts.2
    if d.digits != 0 && (point > 16 || point < -(style.zeros : Int)) then d.scientific style.plus
    else pointed d.plain

end Binary

end StyleAudit
