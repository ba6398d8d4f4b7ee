import StyleAudit.Json.Fault
import StyleAudit.Text.CharSet
import StyleAudit.Text.Decimal
import StyleAudit.Text.Quoted

/-!
# Reading JSON values of a known type

- `Read`: a step that uses up text or stops. A stop remembers how many bytes were left when
  its cause was noticed, if it knows; `placed` fills this in.
- `readString`, `readFlag?`, `readStrings`: values of the types that a configuration has.
- `wrongType`: what is said of a value of another type.
-/

namespace StyleAudit.Json

/-- Why reading stopped, and how many bytes were left. -/
structure Stop where
  cause : Cause
  left : Option Nat

/-- A step that uses up text or stops. After a stop the remaining text is known. -/
abbrev Read := EStateM Stop Text

/-- Stop here. -/
def stop {α : Type} (cause : Cause) : Read α := fun text => .error ⟨cause, some text.bytes⟩ text

/-- Stop at the next byte, which counts as read. -/
def stopAtNext {α : Type} (cause : Cause) : Read α := fun text =>
  .error ⟨cause, some (text.bytes - 1)⟩ text

/-- Stop without a place. -/
def stopAnywhere {α : Type} (cause : Cause) : Read α := fun text => .error ⟨cause, none⟩ text

/-- The place of a stop that has none is where reading stands. -/
def placed {α : Type} (read : Read α) : Read α := fun text =>
  match read text with
  | .ok value rest => .ok value rest
  | .error why rest => .error { why with left := why.left.or (some rest.bytes) } rest

/-- Blanks of JSON. -/
def isBlank (c : Char) : Bool := c == ' ' || c == '\n' || c == '\t' || c == '\r'

/-- The next character, which stays. -/
def peek? : Read (Option Char) := return (← get).head?

/-- The next character that is not blank, which stays. -/
def peekVisible? : Read (Option Char) := do
  modify fun text => text.dropWhile isBlank
  peek?

/-- Pass over the next character. -/
def skip : Read Unit := modify fun text => text.drop 1

/-! ## Words -/

/-- The letters of a word. -/
def readWord : List Char → Read Unit
  | [] => return
  | wanted :: more => do
    match ← peek? with
    | none => stop .endInValue
    | some c =>
      if c == wanted then
        skip
        readWord more
      else stopAtNext .expectedIdent

/-! ## Strings -/

/-- Stop after `n` bytes, or at the end if fewer are left. -/
def stopAfter {α : Type} (n : Nat) (cause : Cause) : Read α := fun text =>
  .error ⟨cause, some (text.bytes - n)⟩ text

/-- The value of four digits of base 16. -/
def readCode : Read Nat := do
  let text ← get
  let digits := text.take 4
  if text.bytes < 4 then stopAfter 4 .endInString
  if digits.length = 4 ∧ digits.all fun c => (Text.hexDigit? c).isSome then
    set (text.drop 4)
    return Text.hexValue digits
  stopAfter 4 .invalidEscape

/-- A character that has to follow the first half of a pair. -/
def readSecondHalfMark (wanted : Char) : Read Unit := do
  match ← peek? with
  | none => stop .endInString
  | some c => if c == wanted then skip else stopAtNext .cutEscape

/-- The character of an escape by number. -/
def readCodeEscape : Read Char := do
  let first ← readCode
  if 0xDC00 ≤ first ∧ first ≤ 0xDFFF then stop .loneSurrogate
  if first < 0xD800 ∨ 0xDBFF < first then return Char.ofNat first
  readSecondHalfMark '\\'
  readSecondHalfMark 'u'
  let second ← readCode
  if second < 0xDC00 ∨ 0xDFFF < second then stop .loneSurrogate
  return Char.ofNat ((first - 0xD800) * 0x400 + (second - 0xDC00) + 0x10000)

/-- The character of an escape, its backslash being read. -/
def readEscape : Read Char := do
  match ← peek? with
  | none => stop .endInString
  | some c =>
    match c with
    | '\x22' | '\\' | '/' => skip; return c
    | 'b' => skip; return '\x08'
    | 'f' => skip; return '\x0c'
    | 'n' => skip; return '\n'
    | 'r' => skip; return '\r'
    | 't' => skip; return '\t'
    | 'u' => skip; readCodeEscape
    | _ => stopAtNext .invalidEscape

/-- The rest of a string, of which at most `limit` characters are read. -/
def readStringFrom : Nat → Read Text
  | 0 => stop .endInString
  | limit + 1 => do
    match ← peek? with
    | none => stop .endInString
    | some '\x22' => skip; return []
    | some '\\' =>
      skip
      let c ← readEscape
      return c :: (← readStringFrom limit)
    | some c =>
      if c.toNat < 0x20 then stopAtNext .controlCharacter
      skip
      return c :: (← readStringFrom limit)

/-- The rest of a string whose opening quote is read. -/
def readStringRest : Read Text := do readStringFrom ((← get).length + 1)

/-! ## Numbers -/

/-- A number: a whole one that fits 64 bits, or another one. -/
inductive Number where
  | whole (n : Int)
  | real (x : Float)

/-- The value of `significand * 10 ^ exponent`, by one multiplication or by divisions with
exact powers of ten where they are exact; none if it is too large. -/
def scaled (significand : Nat) (exponent : Int) : Option Float :=
  let power (n : Nat) : Float := Float.ofScientific 1 false n
  let value := (UInt64.ofNat significand).toFloat
  if 0 ≤ exponent then
    if exponent ≤ 308 then
      let product := value * power exponent.toNat
      if product.isInf then none else some product
    else if significand = 0 then some value
    else none
  else
    let down := (-exponent).toNat
    -- Steps of 308 until the rest has an exact power; zero stays zero.
    let steps := if down ≤ 308 then 0 else (down - 1) / 308
    if steps > 3 then some 0.0
    else
      let lowered := (List.replicate steps ()).foldl (fun x _ => x / power 308) value
      some (lowered / power (down - 308 * steps))

/-- A real number from its parts. -/
def readReal (positive : Bool) (significand : Nat) (exponent : Int) : Read Float :=
  match scaled significand exponent with
  | some value => return if positive then value else -value
  | none => stop .numberOutOfRange

/-- Digits, which are passed over. -/
def readDigits : Read Text := do
  let text ← get
  set (text.dropWhile Char.isDigit)
  return text.takeWhile Char.isDigit

/-- The value of digits. -/
def decimalValue (digits : Text) : Nat :=
  digits.foldl (fun n d => n * 10 + (d.toNat - '0'.toNat)) 0

/-- Digits are added to a number as long as it fits 64 bits: the number and how many were
added. -/
def addDigits (start : Nat) (digits : Text) : Nat × Nat :=
  go start 0 digits
where
  /-- Add the remaining digits. -/
  go (n count : Nat) : Text → Nat × Nat
    | [] => (n, count)
    | d :: ds =>
      let next := n * 10 + (d.toNat - '0'.toNat)
      if next < Nat.pow 2 64 then go next (count + 1) ds else (n, count)

/-- The digits of an exponent that fit 32 bits. -/
def exponentDigits (digits : Text) : Text :=
  (List.range digits.length).foldl
    (fun kept i =>
      if decimalValue (digits.take (i + 1)) < Nat.pow 2 31 then digits.take (i + 1) else kept) []

/-- The exponent of a number, its mark being next. -/
def readExponent (positive : Bool) (significand : Nat) (exponent : Int) : Read Float := do
  skip
  let positiveExponent ←
    match ← peek? with
    | some '+' => skip; pure true
    | some '-' => skip; pure false
    | _ => pure true
  match ← peek? with
  | none => stop .endInValue
  | some c =>
    if !c.isDigit then stopAtNext .invalidNumber
    let before ← get
    let digits ← readDigits
    if decimalValue digits < Nat.pow 2 31 then
      let written : Int := decimalValue digits
      readReal positive significand (exponent + if positiveExponent then written else -written)
    else if significand ≠ 0 ∧ positiveExponent then
      -- The first digit that no longer fits is read before this is noticed.
      set (before.drop ((exponentDigits digits).length + 1))
      stop .numberOutOfRange
    else return if positive then 0.0 else -0.0

/-- The digits after a point, the point being next. -/
def readFraction (positive : Bool) (significand : Nat) (exponent : Int) : Read Float := do
  skip
  let digits ← readDigits
  if digits.isEmpty then
    match ← peek? with
    | some _ => stopAtNext .invalidNumber
    | none => stop .endInValue
  let (significand, count) := addDigits significand digits
  let exponent := exponent - count
  match ← peek? with
  | some 'e' | some 'E' => readExponent positive significand exponent
  | _ => readReal positive significand exponent

/-- A number without its sign. -/
def readNumber (positive : Bool) : Read Number := do
  match ← peek? with
  | none => stop .endInValue
  | some c =>
    if !c.isDigit then stopAtNext .invalidNumber
    let digits ← if c == '0' then skip; pure ['0'] else readDigits
    let (significand, count) := addDigits 0 digits
    let dropped : Int := (digits.length - count : Nat)
    match ← peek? with
    | some '.' => return .real (← readFraction positive significand dropped)
    | some 'e' | some 'E' => return .real (← readExponent positive significand dropped)
    | next =>
      if c == '0' && next.any Char.isDigit then stopAtNext .invalidNumber
      if dropped ≠ 0 then return .real (← readReal positive significand dropped)
      else if positive then return .whole significand
      else if significand = 0 ∨ Nat.pow 2 63 < significand then
        return .real (-(UInt64.ofNat significand).toFloat)
      else return .whole (-significand)

/-! ## Values of the wrong type -/

/-- What a number is called. -/
def Number.description : Number → Text
  | .whole n => "integer `".toList ++ (toString n).toList ++ "`".toList
  | .real x => "floating point `".toList ++ (Binary.ofFloat x).compact ⟨4, true⟩ ++ "`".toList

/-- Read a value of a type that is not wanted, and say so. Lists and objects are not read. -/
def wrongType {α : Type} (wanted : String) : Read α := do
  let complain (description : Text) : Read α :=
    stop (.data ("invalid type: ".toList ++ description ++ ", expected ".toList ++ wanted.toList))
  match ← peek? with
  | some 'n' => skip; readWord "ull".toList; complain "null".toList
  | some 't' => skip; readWord "rue".toList; complain "boolean `true`".toList
  | some 'f' => skip; readWord "alse".toList; complain "boolean `false`".toList
  | some '-' => skip; complain (← readNumber false).description
  | some '\x22' => skip; complain ("string ".toList ++ Text.quoted (← readStringRest))
  | some '[' => complain "sequence".toList
  | some '\x7b' => complain "map".toList
  | some c =>
    if c.isDigit then complain (← readNumber true).description
    else stopAtNext .expectedValue
  | none => stopAtNext .expectedValue

/-- Look at the start of a value. -/
def startValue : Read Char := do
  match ← peekVisible? with
  | some c => return c
  | none => stopAtNext .endInValue

/-- A string. -/
def readString : Read Text := do
  if (← startValue) == '\x22' then
    skip
    readStringRest
  else wrongType "a string"

/-- A truth value. -/
def readBool : Read Bool := do
  match ← startValue with
  | 't' => skip; readWord "rue".toList; return true
  | 'f' => skip; readWord "alse".toList; return false
  | _ => wrongType "a boolean"

/-- A truth value, or none for `null`. -/
def readFlag? : Read (Option Bool) := do
  if (← peekVisible?) == some 'n' then
    skip
    readWord "ull".toList
    return none
  return some (← readBool)

/-! ## Lists and objects -/

/-- Whether a list has another item; `first` says that none was read yet. -/
def hasItem (first : Bool) : Read Bool := do
  match ← peekVisible? with
  | none => stopAtNext .endInList
  | some ']' => return false
  | some c =>
    if first then return true
    if c != ',' then stopAtNext .expectedCommaOrBracket
    skip
    match ← peekVisible? with
    | none => stopAtNext .endInValue
    | some ']' => stopAtNext .trailingComma
    | some _ => return true

/-- The end of a list. -/
def endList : Read Unit := do
  match ← peekVisible? with
  | none => stopAtNext .endInList
  | some ']' => skip
  | some ',' =>
    skip
    match ← peekVisible? with
    | some ']' => stopAtNext .trailingComma
    | _ => stopAtNext .trailingCharacters
  | some _ => stopAtNext .trailingCharacters

/-- Whether an object has another key, which is then next. -/
def hasKey (first : Bool) : Read Bool := do
  match ← peekVisible? with
  | none => stopAtNext .endInObject
  | some '\x7d' => return false
  | some c =>
    if first then
      if c == '\x22' then return true
      stopAtNext .keyNotString
    if c != ',' then stopAtNext .expectedCommaOrBrace
    skip
    match ← peekVisible? with
    | none => stopAtNext .endInValue
    | some '\x22' => return true
    | some '\x7d' => stopAtNext .trailingComma
    | some _ => stopAtNext .keyNotString

/-- The end of an object. -/
def endObject : Read Unit := do
  match ← peekVisible? with
  | none => stopAtNext .endInObject
  | some '\x7d' => skip
  | some ',' => stopAtNext .trailingComma
  | some _ => stopAtNext .trailingCharacters

/-- The colon after a key. -/
def readColon : Read Unit := do
  match ← peekVisible? with
  | none => stopAtNext .endInObject
  | some ':' => skip
  | some _ => stopAtNext .expectedColon

/-- The inside of brackets and their end. If the inside stops, the end is still tried. -/
def bracketed {α : Type} (inside : Read α) (ending : Read Unit) : Read α := fun text =>
  match inside text with
  | .ok value rest =>
    match ending rest with
    | .ok _ rest => .ok value rest
    | .error why rest => .error why rest
  | .error why rest =>
    match ending rest with
    | .ok _ rest | .error _ rest => .error why rest

/-- The strings of a list from the next one on; at most `limit` of them. -/
def readItems : Nat → Bool → Read (List Text)
  | 0, _ => return []
  | limit + 1, first => do
    if ← hasItem first then
      let item ← readString
      return item :: (← readItems limit false)
    return []

/-- A list of strings. -/
def readStrings : Read (List Text) := do
  if (← startValue) == '[' then
    skip
    bracketed (do readItems ((← get).length + 1) true) endList
  else wrongType "a sequence"

/-- Read a whole text. -/
def readAll {α : Type} (read : Read α) (text : Text) : Except Fault α :=
  let all : Read α := do
    let value ← placed read
    match ← peekVisible? with
    | none => return value
    | some _ => stopAtNext .trailingCharacters
  match all text with
  | .ok value _ => .ok value
  | .error why _ => .error (.ofOffset text why.cause (text.bytes - why.left.getD 0))

end StyleAudit.Json
