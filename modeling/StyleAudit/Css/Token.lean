import StyleAudit.Source.Span
import StyleAudit.Text.Blank

/-!
# Stylesheet tokens

Tokens mark only the characters that give a stylesheet its structure: blanks,
comments, strings, brackets, separators and at-keywords. Everything else is
plain text, so that the text of a selector or value can be put together again
from its tokens.

- `Kind`: the classes of tokens, with `Kind.isTrivia`, `Kind.opensGroup` and
  `Kind.closesGroup`.
- `scan`: the longest token at the start of a non-empty text, and the rest.
- `lexemes`: the tokens of a text without positions; nothing is lost.
- `tokens`: the tokens of a text with their spans, the end of input last.

A string that is not closed and a comment that is not closed are one `broken`
token each: it runs to the end of the text, except that in a string a backslash
directly before a line feed is the last character of the token.
-/

namespace StyleAudit.Css

/-- The classes of tokens. -/
inductive Kind where
  | whitespace | comment | string
  | openBrace | closeBrace | semicolon | colon | comma
  | openParen | closeParen | openBracket | closeBracket
  | atKeyword | atSign | slash | plain
  | broken | endOfInput
  deriving DecidableEq, Repr

namespace Kind

/-- Tokens that separate others without meaning of their own. -/
def isTrivia : Kind → Bool
  | whitespace | comment => true
  | _ => false

/-- Tokens that open a nesting level. -/
def opensGroup : Kind → Bool
  | openParen | openBracket | openBrace => true
  | _ => false

/-- Tokens that close a nesting level. -/
def closesGroup : Kind → Bool
  | closeParen | closeBracket | closeBrace => true
  | _ => false

/-- The nesting depth after a token; it never falls below 0. -/
def depthAfter (kind : Kind) (depth : Nat) : Nat :=
  if kind.opensGroup then depth + 1 else if kind.closesGroup then depth - 1 else depth

end Kind

/-- A token: its class, its text and its place in the source. -/
structure Token where
  kind : Kind
  text : Text
  span : Span
  deriving DecidableEq, Repr

/-- A token without its place. -/
structure Lexeme where
  kind : Kind
  text : Text
  deriving DecidableEq, Repr

/-! ## Character classes -/

/-- Characters that may follow `@` to make an at-keyword. -/
def isKeywordStart (c : Char) : Bool := c.isAlpha || c == '_' || c == '-'

/-- Characters without structural meaning. -/
def isPlain (c : Char) : Bool :=
  !(Text.isSpace c || c == '{' || c == '}' || c == ';' || c == ':' || c == ',' || c == '(' ||
    c == ')' || c == '[' || c == ']' || c == '\x22' || c == '\x27' || c == '@' || c == '/')

/-! ## The first token of a text -/

/-- The result of reading a string after its opening quote. -/
structure StringScan where
  /-- Whether the closing quote was found. -/
  closed : Bool
  /-- The characters read, the closing quote included. -/
  taken : Text
  /-- What is left. -/
  rest : Text

/-- Put characters in front of what a scan has taken. -/
def StringScan.prepend (cs : Text) (scan : StringScan) : StringScan :=
  { scan with taken := cs ++ scan.taken }

/-- Read a string up to its closing `quote`. A backslash takes the next
character with it, unless that is a line feed: then the scan stops after the
backslash with the string unclosed. -/
def scanString (quote : Char) : Text → StringScan
  | [] => ⟨false, [], []⟩
  | ['\\'] => ⟨false, ['\\'], []⟩
  | '\\' :: '\n' :: cs => ⟨false, ['\\'], '\n' :: cs⟩
  | '\\' :: c :: cs => (scanString quote cs).prepend ['\\', c]
  | c :: cs => if c = quote then ⟨true, [c], cs⟩ else (scanString quote cs).prepend [c]

/-- A token at the start of a text, and the text after it. -/
structure Scan where
  kind : Kind
  taken : Text
  rest : Text

/-- A string token that starts with `quote`. -/
def stringToken (quote : Char) (cs : Text) : Scan :=
  let body := scanString quote cs
  ⟨if body.closed then .string else .broken, quote :: body.taken, body.rest⟩

/-- The token after `/`: a comment if `*` follows, else the slash alone. -/
def slashToken : Text → Scan
  | '*' :: cs =>
    match Text.cut? ['*', '/'] cs with
    | some (body, rest) => ⟨.comment, '/' :: '*' :: (body ++ ['*', '/']), rest⟩
    | none => ⟨.broken, '/' :: '*' :: cs, []⟩
  | cs => ⟨.slash, ['/'], cs⟩

/-- The token after `@`: an at-keyword if a name follows, else the sign alone. -/
def atToken : Text → Scan
  | c :: cs =>
    if isKeywordStart c then
      ⟨.atKeyword, '@' :: c :: cs.takeWhile Text.isNameChar, cs.dropWhile Text.isNameChar⟩
    else ⟨.atSign, ['@'], c :: cs⟩
  | [] => ⟨.atSign, ['@'], []⟩

/-- The kinds of tokens that are one character each. -/
def punctuation? : Char → Option Kind
  | '{' => some .openBrace
  | '}' => some .closeBrace
  | ';' => some .semicolon
  | ':' => some .colon
  | ',' => some .comma
  | '(' => some .openParen
  | ')' => some .closeParen
  | '[' => some .openBracket
  | ']' => some .closeBracket
  | _ => none

/-- The longest token at the start of the text `c :: cs`. -/
def scan (c : Char) (cs : Text) : Scan :=
  match punctuation? c with
  | some kind => ⟨kind, [c], cs⟩
  | none =>
    if c = '\x22' ∨ c = '\x27' then stringToken c cs
    else if c = '@' then atToken cs
    else if c = '/' then slashToken cs
    else if Text.isSpace c then
      ⟨.whitespace, c :: cs.takeWhile Text.isSpace, cs.dropWhile Text.isSpace⟩
    else ⟨.plain, c :: cs.takeWhile isPlain, cs.dropWhile isPlain⟩

/-! ## A token takes at least one character, and nothing is lost -/

theorem scanString_append (quote : Char) (cs : Text) :
    (scanString quote cs).taken ++ (scanString quote cs).rest = cs := by
  fun_induction scanString quote cs <;> simp_all [StringScan.prepend]

theorem stringToken_append (quote : Char) (cs : Text) :
    (stringToken quote cs).taken ++ (stringToken quote cs).rest = quote :: cs := by
  simp [stringToken, scanString_append]

theorem slashToken_append (cs : Text) :
    (slashToken cs).taken ++ (slashToken cs).rest = '/' :: cs := by
  unfold slashToken
  split
  · split
    · rename_i h
      have := Text.cut?_eq_append h
      simp_all
    · simp
  · simp

theorem atToken_append (cs : Text) : (atToken cs).taken ++ (atToken cs).rest = '@' :: cs := by
  unfold atToken
  split
  · split <;> simp [List.takeWhile_append_dropWhile]
  · simp

/-- A token and the rest make up the text that was scanned. -/
theorem scan_append (c : Char) (cs : Text) : (scan c cs).taken ++ (scan c cs).rest = c :: cs := by
  unfold scan
  split
  · rfl
  · split
    · exact stringToken_append c cs
    · split
      · rename_i h
        subst h
        exact atToken_append cs
      · split
        · rename_i h
          subst h
          exact slashToken_append cs
        · split <;> simp [List.takeWhile_append_dropWhile]

theorem atToken_taken_ne_nil (cs : Text) : (atToken cs).taken ≠ [] := by
  unfold atToken
  split
  · split <;> exact List.cons_ne_nil _ _
  · exact List.cons_ne_nil _ _

theorem slashToken_taken_ne_nil (cs : Text) : (slashToken cs).taken ≠ [] := by
  unfold slashToken
  split
  · split <;> exact List.cons_ne_nil _ _
  · exact List.cons_ne_nil _ _

theorem taken_ne_nil (c : Char) (cs : Text) : (scan c cs).taken ≠ [] := by
  unfold scan
  split
  · exact List.cons_ne_nil _ _
  · split
    · exact List.cons_ne_nil _ _
    · split
      · exact atToken_taken_ne_nil cs
      · split
        · exact slashToken_taken_ne_nil cs
        · split <;> exact List.cons_ne_nil _ _

theorem rest_length_lt (c : Char) (cs : Text) : (scan c cs).rest.length < (c :: cs).length := by
  have happ := congrArg List.length (scan_append c cs)
  have hpos := List.length_pos_iff.2 (taken_ne_nil c cs)
  rw [List.length_append] at happ
  omega

/-! ## All tokens of a text -/

/-- The tokens of a text, without places. -/
def lexemes : Text → List Lexeme
  | [] => []
  | c :: cs => ⟨(scan c cs).kind, (scan c cs).taken⟩ :: lexemes (scan c cs).rest
termination_by text => text.length
decreasing_by exact rest_length_lt c cs

/-- The tokens of a text make up the text. -/
theorem lexemes_texts (text : Text) : (lexemes text).flatMap Lexeme.text = text := by
  induction text using lexemes.induct with
  | case1 => rw [lexemes, List.flatMap_nil]
  | case2 c cs ih => rw [lexemes, List.flatMap_cons, ih, scan_append]

/-- Every token is the first one of some text. -/
theorem exists_scan_of_mem {text : Text} {lexeme : Lexeme} (h : lexeme ∈ lexemes text) :
    ∃ c cs, lexeme = ⟨(scan c cs).kind, (scan c cs).taken⟩ := by
  induction text using lexemes.induct with
  | case1 =>
    rw [lexemes] at h
    exact absurd h List.not_mem_nil
  | case2 c cs ih =>
    rw [lexemes, List.mem_cons] at h
    rcases h with rfl | h
    · exact ⟨c, cs, rfl⟩
    · exact ih h

/-- Every token has a text. -/
theorem lexeme_text_ne_nil {text : Text} {lexeme : Lexeme} (h : lexeme ∈ lexemes text) :
    lexeme.text ≠ [] := by
  obtain ⟨c, cs, rfl⟩ := exists_scan_of_mem h
  exact taken_ne_nil c cs

/-- Give tokens their places, the first one at `offset`. -/
def placeFrom (offset : Nat) : List Lexeme → List Token
  | [] => []
  | lexeme :: rest =>
    ⟨lexeme.kind, lexeme.text, .ofOffsets offset (offset + lexeme.text.bytes)⟩ ::
      placeFrom (offset + lexeme.text.bytes) rest

/-- The tokens of a source with their places, without the end of input. -/
def body (source : Text) : List Token := placeFrom 0 (lexemes source)

/-- The token at the end of a source. -/
def endToken (source : Text) : Token :=
  ⟨.endOfInput, [], .ofOffsets source.bytes source.bytes⟩

/-- The tokens of a source with their places, the end of input last. -/
def tokens (source : Text) : List Token := body source ++ [endToken source]

end StyleAudit.Css
