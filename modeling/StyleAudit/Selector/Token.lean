import StyleAudit.Text.Blank
import StyleAudit.Text.CharSet
import StyleAudit.Text.Decimal

/-!
# Selector tokens

- `Token`: the words of a selector.
- `scan`: the word at the start of a non-empty text, if it is not a comment, and the rest.
- `Piece`, `Piece.ofText`: words with brackets and what stands inside them as one piece. A
  bracket that is not closed ends with the text; a closing bracket without a partner is a
  word of its own.
-/

namespace StyleAudit.Selector

/-- Kinds of brackets. -/
inductive Bracket where
  | round | square | curly
  deriving DecidableEq, Repr

/-- A number: whether a sign is written, its value, and the value if it is written as a whole
number, cut to 32 bits. -/
structure Numeral where
  signed : Bool
  value : Float32
  whole : Option Int
  deriving Repr

/-- A word of a selector. -/
inductive Token where
  | ident (name : Text)
  | atKeyword (name : Text)
  /-- A `#` and a name that cannot stand alone. -/
  | hash (name : Text)
  | idHash (name : Text)
  | quoted (text : Text)
  | badQuoted (text : Text)
  | url (text : Text)
  | badUrl (text : Text)
  | delim (c : Char)
  | number (n : Numeral)
  | percentage (n : Numeral)
  | dimension (n : Numeral) (unit : Text)
  | blank (text : Text)
  | colon
  | semicolon
  | comma
  | wordMatch
  | dashMatch
  | startMatch
  | endMatch
  | partMatch
  | commentOpen
  | commentClose
  | function (name : Text)
  | opening (bracket : Bracket)
  | closing (bracket : Bracket)
  deriving Repr

/-- Line breaks of selectors. -/
def isNewline (c : Char) : Bool := c == '\n' || c == '\r' || c == '\x0c'

/-! ## Names -/

/-- A character that a name may start with. -/
def isNameStart (c : Char) : Bool := c.isAlpha || c == '_' || c == '\x00' || c.toNat ≥ 128

/-- A character that may stand in a name. -/
def isNamePart (c : Char) : Bool := isNameStart c || c.isDigit || c == '-'

/-- Whether a text starts with an escape, its backslash being passed. -/
def isEscape (text : Text) : Bool := !(text.head?.any isNewline)

/-- Whether a text starts with a name that can stand alone. A hyphen and a backslash start one
even if no escape follows; the name is then the hyphen alone. -/
def startsName : Text → Bool
  | '-' :: c :: _ => c == '-' || c == '\\' || isNameStart c
  | '\\' :: cs => isEscape cs
  | c :: _ => isNameStart c
  | [] => false

/-- Drop the blank that ends an escape by number. -/
def dropOneBlank : Text → Text
  | '\r' :: '\n' :: cs => cs
  | c :: cs => if Text.isSpace c then cs else c :: cs
  | [] => []

/-- The character of an escape, its backslash being passed, and the rest. -/
def escaped : Text → Char × Text
  | [] => (Text.replacement, [])
  | c :: cs =>
    if (Text.hexDigit? c).isSome then
      let digits := ((c :: cs).take 6).takeWhile fun d => (Text.hexDigit? d).isSome
      let code := Text.hexValue digits
      let value := Char.ofNat code
      (if code == 0 || value.toNat != code then Text.replacement else value,
        dropOneBlank ((c :: cs).drop digits.length))
    else (if c == '\x00' then Text.replacement else c, cs)

/-- The name at the start of a text and the rest; at most `limit` characters of it. -/
def takeName : Nat → Text → Text × Text
  | 0, text => ([], text)
  | _, [] => ([], [])
  | limit + 1, c :: cs =>
    if c == '\\' then
      if isEscape cs then
        let (value, rest) := escaped cs
        let (name, rest) := takeName limit rest
        (value :: name, rest)
      else ([], c :: cs)
    else if isNamePart c then
      let (name, rest) := takeName limit cs
      ((if c == '\x00' then Text.replacement else c) :: name, rest)
    else ([], c :: cs)

/-- The name at the start of a text and the rest. -/
def name (text : Text) : Text × Text := takeName text.length text

/-! ## Quoted text and addresses -/

/-- Quoted text up to its quote, the end of the line, or the end of input: whether it is
closed properly, its content, and the rest. At most `limit` characters. -/
def takeQuoted (quote : Char) : Nat → Text → Bool × Text × Text
  | 0, text => (true, [], text)
  | _, [] => (true, [], [])
  | limit + 1, c :: cs =>
    if c == quote then (true, [], cs)
    else if isNewline c then (false, [], c :: cs)
    else if c == '\\' then
      match cs with
      | [] => (true, [], [])
      | '\r' :: '\n' :: rest => takeQuoted quote limit rest
      | d :: rest =>
        if isNewline d then takeQuoted quote limit rest
        else
          let (value, rest) := escaped (d :: rest)
          let (good, text, rest) := takeQuoted quote limit rest
          (good, value :: text, rest)
    else
      let (good, text, rest) := takeQuoted quote limit cs
      (good, (if c == '\x00' then Text.replacement else c) :: text, rest)

/-- What is left of a broken address: its text and the rest after its bracket. -/
def badAddress : Text → Text × Text
  | [] => ([], [])
  | ')' :: cs => ([], cs)
  | '\\' :: ')' :: cs =>
    let (text, rest) := badAddress cs
    ('\\' :: ')' :: text, rest)
  | '\\' :: '\\' :: cs =>
    let (text, rest) := badAddress cs
    ('\\' :: '\\' :: text, rest)
  | c :: cs =>
    let (text, rest) := badAddress cs
    (c :: text, rest)

/-- Characters that an address without quotes may not hold. -/
def breaksAddress (c : Char) : Bool :=
  c == '\x22' || c == '\x27' || c == '(' || c == '\x0b' || c == '\x7f' ||
    (c.toNat < 32 && c != '\x00')

/-- An address without quotes: its text and the rest; none if it is broken. -/
def takeAddress : Nat → Text → Option (Text × Text)
  | 0, text => some ([], text)
  | _, [] => some ([], [])
  | limit + 1, c :: cs =>
    if c == ')' then some ([], cs)
    else if Text.isSpace c then
      match cs.dropWhile Text.isSpace with
      | [] => some ([], [])
      | ')' :: rest => some ([], rest)
      | _ => none
    else if breaksAddress c then none
    else if c == '\\' then
      if isEscape cs then
        let (value, rest) := escaped cs
        (takeAddress limit rest).map fun (text, rest) => (value :: text, rest)
      else none
    else
      (takeAddress limit cs).map fun (text, rest) =>
        ((if c == '\x00' then Text.replacement else c) :: text, rest)

/-- What follows `url(`: an address, or a function if a quote comes next. -/
def address (keyword : Text) (text : Text) : Token × Text :=
  let inside := text.dropWhile Text.isSpace
  match inside with
  | '\x22' :: _ | '\x27' :: _ => (.function keyword, text)
  | _ =>
    match takeAddress (inside.length + 1) inside with
    | some (value, rest) => (.url value, rest)
    | none =>
      let (value, rest) := badAddress inside
      (.badUrl value, rest)

/-- A word that starts with a name. -/
def nameToken (text : Text) : Token × Text :=
  match name text with
  | (word, '(' :: rest) =>
    if Text.sameIgnoringCase word "url".toList then address word rest
    else (.function word, rest)
  | (word, rest) => (.ident word, rest)

/-! ## Numbers -/

/-- Digits at the start of a text, and the rest. -/
def digits (text : Text) : Text × Text := (text.takeWhile Char.isDigit, text.dropWhile Char.isDigit)

/-- The value of digits. -/
def digitValue (c : Char) : Float := (c.toNat - '0'.toNat).toFloat

/-- The value of digits before the point. -/
def wholeValue (digits : Text) : Float := digits.foldl (fun sum d => sum * 10 + digitValue d) 0

/-- The value of digits after the point. -/
def fractionValue (digits : Text) : Float :=
  (digits.foldl (fun (sum, factor) d => (sum + digitValue d * factor, factor * 0.1))
    ((0 : Float), (0.1 : Float))).1

/-- The sign at the start of a text: whether there is one, its value, and the rest. -/
def sign : Text → Bool × Float × Text
  | '+' :: cs => (true, 1, cs)
  | '-' :: cs => (true, -1, cs)
  | cs => (false, 1, cs)

/-- The digits after the point, if they are there, and the rest. -/
def fraction? : Text → Option (Text × Text)
  | '.' :: c :: cs => if c.isDigit then some (digits (c :: cs)) else none
  | _ => none

/-- The exponent, if it is there, and the rest. -/
def exponent? : Text → Option (Float × Text)
  | c :: cs =>
    if c == 'e' || c == 'E' then
      let (_, factor, rest) := sign cs
      if rest.head?.any Char.isDigit then
        let (exponent, rest) := digits rest
        some (factor * wholeValue exponent, rest)
      else none
    else none
  | [] => none

/-- A whole number cut to 32 bits. -/
def clamp32 (n : Int) : Int := max (-2147483648) (min 2147483647 n)

/-- A number, with a percent sign or a unit if one follows. -/
def numberToken (text : Text) : Token × Text :=
  let (signed, factor, rest) := sign text
  let (before, rest) := digits rest
  let (after, rest, hasPoint) :=
    match fraction? rest with
    | some (after, rest) => (after, rest, true)
    | none => ([], rest, false)
  let value := factor * (wholeValue before + fractionValue after)
  let (value, rest, hasExponent) :=
    match exponent? rest with
    | some (exponent, rest) => (value * Float.pow 10 exponent, rest, true)
    | none => (value, rest, false)
  let count : Int := before.foldl (fun n d => n * 10 + (d.toNat - '0'.toNat)) 0
  let whole :=
    if hasPoint || hasExponent then none else some (clamp32 (if factor < 0 then -count else count))
  match rest with
  | '%' :: rest => (.percentage ⟨signed, (value / 100).toFloat32, whole⟩, rest)
  | _ =>
    let numeral : Numeral := ⟨signed, value.toFloat32, whole⟩
    if startsName rest then
      let (unit, rest) := name rest
      (.dimension numeral unit, rest)
    else (.number numeral, rest)

/-- Whether a number starts here, its sign being passed. -/
def startsNumber : Text → Bool
  | '.' :: c :: _ => c.isDigit
  | c :: _ => c.isDigit
  | [] => false

/-! ## Words -/

/-- What follows `/*`: the rest after the comment. -/
def afterComment : Text → Text
  | '*' :: '/' :: cs => cs
  | _ :: cs => afterComment cs
  | [] => []

/-- A sign of its own, or with `=` another word. -/
def orMatch (c : Char) (word : Token) : Text → Option Token × Text
  | '=' :: cs => (some word, cs)
  | cs => (some (.delim c), cs)

/-- A word that is read by `read`, or a single sign if `starts` is false. -/
def orDelim (c : Char) (starts : Bool) (read : Text → Token × Text) (cs : Text) :
    Option Token × Text :=
  if starts then
    let (word, rest) := read (c :: cs)
    (some word, rest)
  else (some (.delim c), cs)

/-- The word at the start of a non-empty text, if it is not a comment, and the rest. -/
def scan (c : Char) (cs : Text) : Option Token × Text :=
  if Text.isSpace c then (some (.blank ((c :: cs).takeWhile Text.isSpace)), cs.dropWhile Text.isSpace)
  else
    match c with
    | '\x22' | '\x27' =>
      let (good, text, rest) := takeQuoted c cs.length cs
      (some (if good then .quoted text else .badQuoted text), rest)
    | '#' =>
      if startsName cs then
        let (word, rest) := name cs
        (some (.idHash word), rest)
      else if cs.head?.any fun d => d.isDigit || d == '-' then
        let (word, rest) := name cs
        (some (.hash word), rest)
      else (some (.delim c), cs)
    | '@' =>
      if startsName cs then
        let (word, rest) := name cs
        (some (.atKeyword word), rest)
      else (some (.delim c), cs)
    | '$' => orMatch c .endMatch cs
    | '*' => orMatch c .partMatch cs
    | '^' => orMatch c .startMatch cs
    | '|' => orMatch c .dashMatch cs
    | '~' => orMatch c .wordMatch cs
    | '(' => (some (.opening .round), cs)
    | ')' => (some (.closing .round), cs)
    | '[' => (some (.opening .square), cs)
    | ']' => (some (.closing .square), cs)
    | '{' => (some (.opening .curly), cs)
    | '}' => (some (.closing .curly), cs)
    | ',' => (some .comma, cs)
    | ':' => (some .colon, cs)
    | ';' => (some .semicolon, cs)
    | '+' => orDelim c (startsNumber cs) numberToken cs
    | '.' => orDelim c (cs.head?.any Char.isDigit) numberToken cs
    | '-' =>
      if startsNumber cs then orDelim c true numberToken cs
      else
        match cs with
        | '-' :: '>' :: rest => (some .commentClose, rest)
        | _ => orDelim c (startsName (c :: cs)) nameToken cs
    | '/' =>
      match cs with
      | '*' :: rest => (none, afterComment rest)
      | _ => (some (.delim c), cs)
    | '<' =>
      match cs with
      | '!' :: '-' :: '-' :: rest => (some .commentOpen, rest)
      | _ => (some (.delim c), cs)
    | _ =>
      if c.isDigit then orDelim c true numberToken cs
      else orDelim c (startsName (c :: cs)) nameToken cs

/-- The words of a text, of which at most `limit` are read. -/
def tokensUpTo : Nat → Text → List Token
  | limit + 1, c :: cs =>
    match scan c cs with
    | (some token, rest) => token :: tokensUpTo limit rest
    | (none, rest) => tokensUpTo limit rest
  | _, _ => []

/-- The words of a text. -/
def tokens (text : Text) : List Token := tokensUpTo text.length text

/-! ## Pieces -/

/-- A word, or a bracket or function with what stands inside it. -/
inductive Piece where
  | single (token : Token)
  | block (opening : Token) (content : List Piece)

/-- The first word of a piece. -/
def Piece.token : Piece → Token
  | .single token => token
  | .block opening _ => opening

/-- The bracket that a word opens. -/
def Token.opens? : Token → Option Bracket
  | .opening bracket => some bracket
  | .function _ => some .round
  | _ => none

/-- An open bracket: its word, its kind, and the pieces before it, last first. -/
structure Frame where
  opening : Token
  bracket : Bracket
  before : List Piece

namespace Piece

/-- Close a bracket: the pieces around it, last first. -/
def close (frame : Frame) (content : List Piece) : List Piece :=
  block frame.opening content.reverse :: frame.before

/-- Nest words; `frames` are the open brackets, innermost first, and `content` the pieces in
the innermost one, last first. -/
def nest : List Frame → List Piece → List Token → List Piece
  | [], content, [] => content.reverse
  | frame :: frames, content, [] => nest frames (close frame content) []
  | frames, content, token :: tokens =>
    match token.opens? with
    | some bracket => nest (⟨token, bracket, content⟩ :: frames) [] tokens
    | none =>
      match token, frames with
      | .closing bracket, frame :: outer =>
        if frame.bracket = bracket then nest outer (close frame content) tokens
        else nest frames (single token :: content) tokens
      | _, _ => nest frames (single token :: content) tokens
  termination_by frames _ tokens => (tokens.length, frames.length)

/-- The pieces of a text. -/
def ofText (text : Text) : List Piece := nest [] [] (tokens text)

end Piece

end StyleAudit.Selector
