/-!
# Text

A text is the list of its characters; offsets into it are counted in bytes of
its UTF-8 form.

- `Text.bytes`, `Text.utf8`, `Text.slice?`: byte lengths, the bytes themselves, and the part
  between two byte offsets.
- `Text.dropLead?`, `Text.cut?`, `Text.cutLast?`: the text after a leading part,
  and the two sides of the first or last occurrence of a part.
- `Text.contains`, `Text.offsetOf?`: whether and where a part occurs.
- `Text.replaceAll`, `Text.replaceFirst`, `Text.replaceLast`: substitution.
-/

namespace StyleAudit

/-- A text is the list of its characters. -/
abbrev Text := List Char

namespace Text

/-! ## Byte offsets -/

/-- The length of a text in bytes. -/
def bytes : Text → Nat
  | [] => 0
  | c :: cs => c.utf8Size + bytes cs

/-- The bytes of a text. -/
def utf8 (text : Text) : List UInt8 := text.flatMap String.utf8EncodeChar

/-- The text from byte `n` on, if `n` is a character boundary of the text. -/
def dropBytes? : Nat → Text → Option Text
  | 0, cs => some cs
  | _ + 1, [] => none
  | n + 1, c :: cs =>
    if c.utf8Size ≤ n + 1 then dropBytes? (n + 1 - c.utf8Size) cs else none

/-- The text before byte `n`, if `n` is a character boundary of the text. -/
def takeBytes? : Nat → Text → Option Text
  | 0, _ => some []
  | _ + 1, [] => none
  | n + 1, c :: cs =>
    if c.utf8Size ≤ n + 1 then (takeBytes? (n + 1 - c.utf8Size) cs).map (c :: ·) else none

/-- The text between two byte offsets: none if they are reversed, past the end
or inside a character. -/
def slice? (start stop : Nat) (text : Text) : Option Text :=
  if start ≤ stop then (dropBytes? start text).bind (takeBytes? (stop - start)) else none

@[simp] theorem bytes_nil : bytes [] = 0 := rfl

@[simp] theorem bytes_cons (c : Char) (cs : Text) : bytes (c :: cs) = c.utf8Size + bytes cs := rfl

@[simp] theorem bytes_append (a b : Text) : bytes (a ++ b) = bytes a + bytes b := by
  induction a with
  | nil => simp
  | cons c cs ih => simp only [List.cons_append, bytes_cons, ih, Nat.add_assoc]

/-! ## Occurrences -/

/-- What follows `lead` in a text that starts with it. -/
def dropLead? : Text → Text → Option Text
  | [], text => some text
  | _ :: _, [] => none
  | p :: ps, c :: cs => if p = c then dropLead? ps cs else none

/-- Whether a text starts with `lead`. -/
def startsWith (lead text : Text) : Bool := (dropLead? lead text).isSome

/-- Whether a text ends with `tail`. -/
def endsWith (tail text : Text) : Bool := startsWith tail.reverse text.reverse

/-- The two sides of the first occurrence of `part`. -/
def cut? (part : Text) : Text → Option (Text × Text)
  | [] => (dropLead? part []).map ([], ·)
  | c :: cs =>
    match dropLead? part (c :: cs) with
    | some rest => some ([], rest)
    | none => (cut? part cs).map fun sides => (c :: sides.1, sides.2)

/-- The two sides of the last occurrence of `part`. -/
def cutLast? (part : Text) : Text → Option (Text × Text)
  | [] => (dropLead? part []).map ([], ·)
  | c :: cs =>
    match cutLast? part cs with
    | some sides => some (c :: sides.1, sides.2)
    | none => (dropLead? part (c :: cs)).map ([], ·)

/-- Whether `part` occurs in a text. -/
def contains (part text : Text) : Bool := (cut? part text).isSome

/-- The byte offset of the first occurrence of `part`. -/
def offsetOf? (part text : Text) : Option Nat := (cut? part text).map fun sides => bytes sides.1

theorem dropLead?_eq_some {lead text rest : Text} :
    dropLead? lead text = some rest ↔ text = lead ++ rest := by
  induction lead generalizing text with
  | nil => simp [dropLead?, eq_comm]
  | cons p ps ih =>
    cases text with
    | nil => simp [dropLead?]
    | cons c cs => by_cases h : p = c <;> simp [dropLead?, h, ih, eq_comm]

theorem cut?_eq_append {part text before after : Text} (h : cut? part text = some (before, after)) :
    text = before ++ part ++ after := by
  induction text generalizing before with
  | nil =>
    simp only [cut?, Option.map_eq_some_iff, Prod.mk.injEq] at h
    obtain ⟨rest, hrest, rfl, rfl⟩ := h
    simpa using dropLead?_eq_some.1 hrest
  | cons c cs ih =>
    simp only [cut?] at h
    split at h
    · rename_i rest hrest
      simp only [Option.some.injEq, Prod.mk.injEq] at h
      obtain ⟨rfl, rfl⟩ := h
      simpa using dropLead?_eq_some.1 hrest
    · simp only [Option.map_eq_some_iff, Prod.mk.injEq, Prod.exists] at h
      obtain ⟨b, a, hcut, rfl, rfl⟩ := h
      simp [ih hcut]

/-! ## Substitution -/

/-- Replace the occurrences of a non-empty `old` from left to right; `skip`
counts the characters of the last occurrence that are still to be passed over. -/
def replaceAllFrom (old new : Text) : Nat → Text → Text
  | _, [] => []
  | skip + 1, _ :: cs => replaceAllFrom old new skip cs
  | 0, c :: cs =>
    if startsWith old (c :: cs) then new ++ replaceAllFrom old new (old.length - 1) cs
    else c :: replaceAllFrom old new 0 cs

/-- Replace every occurrence of a non-empty `old`, from left to right. -/
def replaceAll (old new text : Text) : Text := replaceAllFrom old new 0 text

/-- Replace the first occurrence of `old`. -/
def replaceFirst (old new text : Text) : Text :=
  match cut? old text with
  | some (before, after) => before ++ new ++ after
  | none => text

/-- Replace the last occurrence of `old`. -/
def replaceLast (old new text : Text) : Text :=
  match cutLast? old text with
  | some (before, after) => before ++ new ++ after
  | none => text

/-! ## ASCII -/

/-- The character that stands for what cannot be read. -/
def replacement : Char := '\uFFFD'

/-- Letters, digits, `_` and `-` of ASCII: the characters of a plain name. -/
def isNameChar (c : Char) : Bool := c.isAlphanum || c == '_' || c == '-'

/-- The text with its ASCII capitals made small. -/
def lower (text : Text) : Text := text.map Char.toLower

/-- Equality up to the case of ASCII letters. -/
def sameIgnoringCase (a b : Text) : Bool := lower a == lower b

end Text

end StyleAudit
