import StyleAudit.Proofs.Css.Comment
import Mathlib

/-!
# Token patterns

What the tokens of each kind look like, said as a language and not by a scan, and that `scan` takes
the longest text that looks like a token.

- `one`, `quoted`, `Kind.pattern`: the languages of the kinds.
- `scanString_closed`, `exists_body_of_closed`: the scan closes a string at the quote that ends it.
- `FirstToken`: what the first token of a text has to be.
- `scan_firstToken`: the token that is scanned is the first token.

A comment is no longer than its first `*/`, so its language is given by the note in it.
-/

namespace StyleAudit.Css

open scoped Computability

/-! ## The patterns -/

/-- The texts of one character that satisfies `p`. -/
def one (p : Char → Prop) : Language Char := {text | ∃ c, p c ∧ text = [c]}

/-- What stands for one character of a string: a character other than the quote and the backslash,
or an escape of any character but a line feed. -/
def stringUnit (quote : Char) : Language Char :=
  one (fun c => c ≠ quote ∧ c ≠ '\\') + {['\\']} * one (· ≠ '\n')

/-- Strings between two `quote`s. -/
def quoted (quote : Char) : Language Char := {[quote]} * (stringUnit quote)∗ * {[quote]}

/-- The blanks between tokens. -/
def blanks : List Char := [' ', '\t', '\n', '\r', '\x0c']

/-- The characters that plain text does not have. -/
def structural : List Char :=
  blanks ++ ['{', '}', ';', ':', ',', '(', ')', '[', ']', '\x22', '\x27', '@', '/']

/-- The characters a name starts with. -/
def StartsName (c : Char) : Prop :=
  ('a' ≤ c ∧ c ≤ 'z') ∨ ('A' ≤ c ∧ c ≤ 'Z') ∨ c = '_' ∨ c = '-'

/-- The characters a name goes on with. -/
def ContinuesName (c : Char) : Prop := StartsName c ∨ ('0' ≤ c ∧ c ≤ '9')

/-- The texts that tokens of a kind have. -/
def Kind.pattern : Kind → Language Char
  | .whitespace => one (· ∈ blanks) * (one (· ∈ blanks))∗
  | .comment => {text | ∃ note, ¬ ['*', '/'] <:+: note ∧ text = Css.comment note}
  | .string => quoted '\x22' + quoted '\x27'
  | .openBrace => {['{']}
  | .closeBrace => {['}']}
  | .semicolon => {[';']}
  | .colon => {[':']}
  | .comma => {[',']}
  | .openParen => {['(']}
  | .closeParen => {[')']}
  | .openBracket => {['[']}
  | .closeBracket => {[']']}
  | .atKeyword => {['@']} * one StartsName * (one ContinuesName)∗
  | .atSign => {['@']}
  | .slash => {['/']}
  | .plain => one (· ∉ structural) * (one (· ∉ structural))∗
  | .broken | .endOfInput => 0

/-! ## Classes of characters -/

theorem isSpace_iff {c : Char} : Text.isSpace c = true ↔ c ∈ blanks := by
  simp only [Text.isSpace, blanks, Bool.or_eq_true, beq_iff_eq, List.mem_cons, List.not_mem_nil,
    or_false, or_assoc]

theorem isPlain_iff {c : Char} : isPlain c = true ↔ c ∉ structural := by
  rw [isPlain, Bool.not_eq_true', ← Bool.not_eq_true]
  refine not_congr ?_
  simp only [structural, Bool.or_eq_true, beq_iff_eq, isSpace_iff, List.mem_append, List.mem_cons,
    List.not_mem_nil, or_false, or_assoc]

theorem isKeywordStart_iff {c : Char} : isKeywordStart c = true ↔ StartsName c := by
  simp only [isKeywordStart, StartsName, Char.isAlpha, Char.isUpper, Char.isLower, Bool.or_eq_true,
    Bool.and_eq_true, decide_eq_true_eq, beq_iff_eq, Char.le_def]
  tauto

theorem isNameChar_iff {c : Char} : Text.isNameChar c = true ↔ ContinuesName c := by
  rw [ContinuesName, ← isKeywordStart_iff]
  simp only [isKeywordStart, Text.isNameChar, Char.isAlphanum, Char.isDigit, Bool.or_eq_true,
    Bool.and_eq_true, decide_eq_true_eq, beq_iff_eq, Char.le_def]
  tauto

/-! ## Runs of characters -/

section

variable {p : Char → Prop}

theorem mem_star_one {text : Text} : text ∈ (one p)∗ ↔ ∀ c ∈ text, p c := by
  rw [Language.mem_kstar]
  constructor
  · rintro ⟨parts, rfl, hparts⟩ c hc
    obtain ⟨part, hpart, hmem⟩ := List.mem_flatten.mp hc
    obtain ⟨d, hd, rfl⟩ := hparts part hpart
    rwa [List.mem_singleton.mp hmem]
  · intro h
    refine ⟨text.map fun c => [c], ?_, ?_⟩
    · induction text with
      | nil => rfl
      | cons c cs ih => simp [← ih (List.forall_mem_cons.mp h).2]
    · intro part hpart
      obtain ⟨c, hc, rfl⟩ := List.mem_map.mp hpart
      exact ⟨c, h c hc, rfl⟩

theorem cons_mem_one_mul {l : Language Char} {c : Char} {cs : Text} :
    c :: cs ∈ one p * l ↔ p c ∧ cs ∈ l := by
  rw [Language.mem_mul]
  constructor
  · rintro ⟨_, ⟨d, hd, rfl⟩, rest, hrest, heq⟩
    obtain ⟨rfl, rfl⟩ := List.cons.inj heq
    exact ⟨hd, hrest⟩
  · rintro ⟨hc, hcs⟩
    exact ⟨[c], ⟨c, hc, rfl⟩, cs, hcs, rfl⟩

/-- A run of characters of one class takes no more than the scan of the class takes. -/
theorem length_le_takeWhile {q : Char → Bool} (hq : ∀ c, q c = true ↔ p c) {run : Text}
    (h : run ∈ (one p)∗) (more : Text) :
    run.length ≤ ((run ++ more).takeWhile q).length := by
  have hrun : ∀ c ∈ run, q c = true := fun c hc => (hq c).mpr (mem_star_one.mp h c hc)
  rw [List.takeWhile_append_of_pos hrun, List.length_append]
  exact Nat.le_add_right _ _

theorem takeWhile_mem_star {q : Char → Bool} (hq : ∀ c, q c = true ↔ p c) (cs : Text) :
    cs.takeWhile q ∈ (one p)∗ := by
  refine mem_star_one.mpr fun c hc => (hq c).mp ?_
  exact List.all_eq_true.mp List.all_takeWhile c hc

end

/-! ## Strings -/

theorem mem_quoted {quote : Char} {text : Text} :
    text ∈ quoted quote ↔ ∃ body ∈ (stringUnit quote)∗, text = quote :: (body ++ [quote]) := by
  rw [quoted, Language.mem_mul]
  constructor
  · rintro ⟨front, hfront, _, rfl, rfl⟩
    obtain ⟨_, rfl, body, hbody, rfl⟩ := Language.mem_mul.mp hfront
    exact ⟨body, hbody, rfl⟩
  · rintro ⟨body, hbody, rfl⟩
    exact ⟨quote :: body, Language.append_mem_mul (a := [quote]) rfl hbody, [quote], rfl, rfl⟩

/-- The scan goes over what stands for a character and on. -/
theorem scanString_unit {quote : Char} {text : Text}
    (h : text ∈ stringUnit quote) (rest : Text) :
    scanString quote (text ++ rest) = (scanString quote rest).prepend text := by
  rcases h with ⟨c, ⟨hne, hbackslash⟩, rfl⟩ | hescape
  · rw [List.singleton_append, scanString_cons hbackslash, if_neg hne]
  · obtain ⟨_, rfl, _, ⟨c, hc, rfl⟩, rfl⟩ := Language.mem_mul.mp hescape
    exact scanString.eq_4 quote c rest hc

/-- A string is closed by its last quote. -/
theorem scanString_closed {quote : Char} (hquote : quote ≠ '\\') {body : Text}
    (h : body ∈ (stringUnit quote)∗) (rest : Text) :
    scanString quote (body ++ quote :: rest) = ⟨true, body ++ [quote], rest⟩ := by
  -- on what stands for characters, not on characters: an escape is passed over as a whole
  obtain ⟨units, rfl, hunits⟩ := Language.mem_kstar.mp h
  clear h
  induction units with
  | nil =>
    rw [List.flatten_nil, List.nil_append, scanString_cons hquote, if_pos rfl, List.nil_append]
  | cons unit units ih =>
    obtain ⟨hunit, hothers⟩ := List.forall_mem_cons.mp hunits
    rw [List.flatten_cons, List.append_assoc, scanString_unit hunit, ih hothers,
      StringScan.prepend, List.append_assoc]

/-- What the scan of a closed string takes is a string. -/
theorem exists_body_of_closed {quote : Char} {cs : Text} (h : (scanString quote cs).closed = true) :
    ∃ body ∈ (stringUnit quote)∗, (scanString quote cs).taken = body ++ [quote] := by
  have hunit : ∀ {text body : Text}, text ∈ stringUnit quote → body ∈ (stringUnit quote)∗ →
      text ++ body ∈ (stringUnit quote)∗ := by
    rintro text _ htext ⟨units, rfl, hunits⟩
    exact ⟨text :: units, rfl, List.forall_mem_cons.mpr ⟨htext, hunits⟩⟩
  fun_induction scanString quote cs with
  | case1 => cases h
  | case2 => cases h
  | case3 => cases h
  | case4 c cs hc ih =>
    obtain ⟨body, hbody, htaken⟩ := ih h
    refine ⟨['\\', c] ++ body, hunit (.inr ?_) hbody, ?_⟩
    · exact Language.append_mem_mul (a := ['\\']) rfl ⟨c, hc, rfl⟩
    · rw [StringScan.prepend, htaken, List.append_assoc]
  | case5 cs => exact ⟨[], Language.nil_mem_kstar _, rfl⟩
  | case6 c cs hnil _ hcons hne ih =>
    obtain ⟨body, hbody, htaken⟩ := ih h
    refine ⟨[c] ++ body, hunit (.inl ⟨c, ⟨hne, ne_backslash hnil hcons⟩, rfl⟩) hbody, ?_⟩
    rw [StringScan.prepend, htaken, List.append_assoc]

/-! ## What a scan can be -/

/-- The characters with a meaning are those with a scan of their own. -/
theorem mem_structural {c : Char} :
    c ∈ structural ↔ (punctuation? c).isSome = true ∨ (c = '\x22' ∨ c = '\x27') ∨ c = '@' ∨
      c = '/' ∨ Text.isSpace c = true := by
  rw [isSpace_iff, structural, List.mem_append]
  constructor
  · simp only [List.mem_cons, List.not_mem_nil, or_false]
    rintro (hblank | rfl | rfl | rfl | rfl | rfl | rfl | rfl | rfl | rfl | rfl | rfl | rfl | rfl)
    · exact .inr (.inr (.inr (.inr hblank)))
    all_goals simp [punctuation?]
  · rintro (hpunct | (rfl | rfl) | rfl | rfl | hblank)
    · right
      unfold punctuation? at hpunct
      split at hpunct <;> simp_all
    · simp
    · simp
    · simp
    · simp
    · exact .inl hblank

/-- The scans there are, by the first character. -/
theorem scan_cases (c : Char) (cs : Text) :
    (∃ kind, punctuation? c = some kind ∧ scan c cs = ⟨kind, [c], cs⟩) ∨
    ((c = '\x22' ∨ c = '\x27') ∧ scan c cs = stringToken c cs) ∨
    (c = '@' ∧ scan c cs = atToken cs) ∨
    (c = '/' ∧ scan c cs = slashToken cs) ∨
    (Text.isSpace c = true ∧
      scan c cs = ⟨.whitespace, c :: cs.takeWhile Text.isSpace, cs.dropWhile Text.isSpace⟩) ∨
    (isPlain c = true ∧ scan c cs = ⟨.plain, c :: cs.takeWhile isPlain, cs.dropWhile isPlain⟩) := by
  unfold scan
  cases hpunct : punctuation? c with
  | some kind => exact .inl ⟨kind, rfl, rfl⟩
  | none =>
    by_cases hquote : c = '\x22' ∨ c = '\x27'
    · exact .inr (.inl ⟨hquote, if_pos hquote⟩)
    by_cases hat : c = '@'
    · exact .inr (.inr (.inl ⟨hat, by simp only [if_neg hquote, if_pos hat]⟩))
    by_cases hslash : c = '/'
    · refine .inr (.inr (.inr (.inl ⟨hslash, ?_⟩)))
      simp only [if_neg hquote, if_neg hat, if_pos hslash]
    simp only [if_neg hquote, if_neg hat, if_neg hslash]
    by_cases hspace : Text.isSpace c = true
    · exact .inr (.inr (.inr (.inr (.inl ⟨hspace, if_pos hspace⟩))))
    · have hplain : isPlain c = true := by
        rw [isPlain_iff, mem_structural, hpunct]
        simp [hquote, hat, hslash, hspace]
      exact .inr (.inr (.inr (.inr (.inr ⟨hplain, if_neg hspace⟩))))

theorem scan_of_isPlain {c : Char} (h : isPlain c = true) (cs : Text) :
    scan c cs = ⟨.plain, c :: cs.takeWhile isPlain, cs.dropWhile isPlain⟩ := by
  have hnone := isPlain_iff.mp h
  rw [mem_structural] at hnone
  rcases scan_cases c cs with ⟨kind, hkind, -⟩ | ⟨hquote, -⟩ | ⟨hat, -⟩ | ⟨hslash, -⟩ |
    ⟨hspace, -⟩ | ⟨-, hscan⟩
  · exact absurd (.inl (by simp [hkind])) hnone
  · exact absurd (.inr (.inl hquote)) hnone
  · exact absurd (.inr (.inr (.inl hat))) hnone
  · exact absurd (.inr (.inr (.inr (.inl hslash)))) hnone
  · exact absurd (.inr (.inr (.inr (.inr hspace)))) hnone
  · exact hscan

section

variable {c : Char} {cs rest : Text}

theorem scan_comment {note : Text} (h : ¬ ['*', '/'] <:+: note)
    (htext : comment note ++ rest = c :: cs) : scan c cs = ⟨.comment, comment note, rest⟩ := by
  obtain ⟨rfl, rfl⟩ := List.cons.inj htext
  show slashToken ('*' :: (note ++ ['*', '/'] ++ rest)) = _
  simp only [slashToken, Text.cut?_note h rest]
  rfl

theorem scan_quoted {quote : Char} (hquote : quote = '\x22' ∨ quote = '\x27') {text : Text}
    (h : text ∈ quoted quote) (htext : text ++ rest = c :: cs) :
    scan c cs = ⟨.string, text, rest⟩ := by
  obtain ⟨body, hbody, rfl⟩ := mem_quoted.mp h
  obtain ⟨rfl, hcs⟩ := List.cons.inj htext
  have hscan : scan quote cs = stringToken quote cs := by rcases hquote with rfl | rfl <;> rfl
  have hbackslash : quote ≠ '\\' := by rcases hquote with rfl | rfl <;> decide
  have hclosed := scanString_closed hbackslash hbody rest
  rw [List.append_eq, List.append_assoc, List.singleton_append] at hcs
  rw [hscan, stringToken, ← hcs, hclosed]
  rfl

theorem scan_keyword (h : StartsName c) :
    scan '@' (c :: cs) =
      ⟨.atKeyword, '@' :: c :: cs.takeWhile Text.isNameChar, cs.dropWhile Text.isNameChar⟩ := by
  show atToken (c :: cs) = _
  rw [atToken, if_pos (isKeywordStart_iff.mpr h)]

end

/-! ## The first token -/

/-- What the first token of `remaining` has to be. -/
inductive FirstToken : Kind → Text → Text → Prop
  /-- The longest text at the start that any kind of token can have. -/
  | longest {kind : Kind} {taken remaining : Text} (isToken : taken ∈ kind.pattern)
      (begins : taken <+: remaining)
      (isLongest : ∀ (other : Kind) (text : Text), text ∈ other.pattern → text <+: remaining →
        text.length ≤ taken.length) :
      FirstToken kind taken remaining
  /-- A string of which no quote is the last one. -/
  | openString {quote : Char} {taken remaining : Text} (isQuote : quote = '\x22' ∨ quote = '\x27')
      (starts : [quote] <+: taken) (begins : taken <+: remaining)
      (isOpen : ∀ text ∈ Kind.string.pattern, ¬ text <+: remaining) :
      FirstToken .broken taken remaining
  /-- A comment that goes on to the end. -/
  | openComment {rest taken : Text} (starts : ['/', '*'] <+: taken)
      (begins : taken <+: '/' :: '*' :: rest) (isOpen : ¬ ['*', '/'] <:+: rest) :
      FirstToken .broken taken ('/' :: '*' :: rest)
  /-- The end of input. -/
  | atEnd : FirstToken .endOfInput [] []

/-- No text of a kind is longer than what is scanned. -/
theorem length_le_of_pattern {kind : Kind} {text more : Text} {c : Char} {cs : Text}
    (h : text ∈ kind.pattern) (htext : text ++ more = c :: cs) :
    text.length ≤ (scan c cs).taken.length := by
  -- a text of one character is no longer than any token
  have hsingle : ∀ d : Char, text = [d] → text.length ≤ (scan c cs).taken.length := by
    rintro d rfl
    exact List.length_pos_iff.mpr (taken_ne_nil c cs)
  cases kind with
  | whitespace =>
    obtain ⟨_, ⟨d, hd, rfl⟩, run, hrun, rfl⟩ := Language.mem_mul.mp h
    obtain ⟨rfl, rfl⟩ := List.cons.inj htext
    rw [Reader.scan_of_isSpace (isSpace_iff.mpr hd)]
    exact Nat.succ_le_succ (length_le_takeWhile (fun _ => isSpace_iff) hrun more)
  | comment =>
    obtain ⟨note, hnote, rfl⟩ := h
    rw [scan_comment hnote htext]
  | string =>
    rcases h with h | h
    · rw [scan_quoted (.inl rfl) h htext]
    · rw [scan_quoted (.inr rfl) h htext]
  | atKeyword =>
    obtain ⟨front, hfront, run, hrun, rfl⟩ := Language.mem_mul.mp h
    obtain ⟨_, rfl, _, ⟨d, hd, rfl⟩, rfl⟩ := Language.mem_mul.mp hfront
    obtain ⟨rfl, rfl⟩ := List.cons.inj htext
    have hlength := length_le_takeWhile (fun _ => isNameChar_iff) hrun more
    show _ ≤ (scan '@' (d :: (run ++ more))).taken.length
    rw [scan_keyword hd]
    exact Nat.succ_le_succ (Nat.succ_le_succ hlength)
  | plain =>
    obtain ⟨_, ⟨d, hd, rfl⟩, run, hrun, rfl⟩ := Language.mem_mul.mp h
    obtain ⟨rfl, rfl⟩ := List.cons.inj htext
    rw [scan_of_isPlain (isPlain_iff.mpr hd)]
    exact Nat.succ_le_succ (length_le_takeWhile (fun _ => isPlain_iff) hrun more)
  | broken => exact absurd h (Language.notMem_zero text)
  | endOfInput => exact absurd h (Language.notMem_zero text)
  | _ => exact hsingle _ h

/-- A token that is scanned whole is of its kind. -/
theorem scan_mem_pattern {c : Char} {cs : Text} (h : (scan c cs).kind ≠ .broken) :
    (scan c cs).taken ∈ (scan c cs).kind.pattern := by
  rcases scan_cases c cs with ⟨kind, hkind, hscan⟩ | ⟨hquote, hscan⟩ | ⟨rfl, hscan⟩ | ⟨rfl, hscan⟩ |
    ⟨hspace, hscan⟩ | ⟨hplain, hscan⟩
  · rw [hscan]
    unfold punctuation? at hkind
    split at hkind <;> cases hkind <;> rfl
  · rw [hscan, stringToken] at h ⊢
    cases hclosed : (scanString c cs).closed with
    | false => simp [hclosed] at h
    | true =>
      obtain ⟨body, hbody, htaken⟩ := exists_body_of_closed hclosed
      have hmem : c :: (scanString c cs).taken ∈ quoted c := by
        rw [htaken]
        exact mem_quoted.mpr ⟨body, hbody, rfl⟩
      rcases hquote with rfl | rfl
      · exact .inl hmem
      · exact .inr hmem
  · rw [hscan]
    cases cs with
    | nil => rfl
    | cons d ds =>
      by_cases hd : isKeywordStart d = true
      · simp only [atToken, if_pos hd]
        have hfront : ['@', d] ∈ ({['@']} : Language Char) * one StartsName :=
          Language.append_mem_mul (a := ['@']) rfl ⟨d, isKeywordStart_iff.mp hd, rfl⟩
        exact Language.append_mem_mul hfront (takeWhile_mem_star (fun _ => isNameChar_iff) ds)
      · simp only [atToken, if_neg hd]
        rfl
  · rw [hscan] at h ⊢
    by_cases hstar : ∃ ds, cs = '*' :: ds
    · obtain ⟨ds, rfl⟩ := hstar
      simp only [slashToken] at h ⊢
      cases hcut : Text.cut? ['*', '/'] ds with
      | none => simp [hcut] at h
      | some sides => exact ⟨sides.1, Text.not_part_before_cut (List.cons_ne_nil _ _) hcut, rfl⟩
    · rw [slashToken_eq_slash fun ds hds => hstar ⟨ds, hds⟩]
      rfl
  · rw [hscan]
    exact cons_mem_one_mul.mpr ⟨isSpace_iff.mp hspace, takeWhile_mem_star (fun _ => isSpace_iff) cs⟩
  · rw [hscan]
    exact cons_mem_one_mul.mpr ⟨isPlain_iff.mp hplain, takeWhile_mem_star (fun _ => isPlain_iff) cs⟩

/-- A broken token is a string that is not closed or a comment that is not closed. -/
theorem scan_broken {c : Char} {cs : Text} (h : (scan c cs).kind = .broken) :
    ((c = '\x22' ∨ c = '\x27') ∧ scan c cs = stringToken c cs) ∨
      ∃ rest, c = '/' ∧ cs = '*' :: rest ∧ (scan c cs).taken = c :: cs ∧
        ¬ ['*', '/'] <:+: rest := by
  rcases scan_cases c cs with ⟨kind, hkind, hscan⟩ | ⟨hquote, hscan⟩ | ⟨rfl, hscan⟩ | ⟨rfl, hscan⟩ |
    ⟨-, hscan⟩ | ⟨-, hscan⟩
  · rw [hscan] at h
    subst h
    unfold punctuation? at hkind
    split at hkind <;> cases hkind
  · exact .inl ⟨hquote, hscan⟩
  · rw [hscan] at h
    unfold atToken at h
    split at h
    · split at h <;> cases h
    · cases h
  · by_cases hstar : ∃ rest, cs = '*' :: rest
    · obtain ⟨rest, rfl⟩ := hstar
      rw [hscan, slashToken] at h
      cases hcut : Text.cut? ['*', '/'] rest with
      | some sides => simp [hcut] at h
      | none =>
        have htaken : (scan '/' ('*' :: rest)).taken = '/' :: '*' :: rest := by
          rw [hscan, slashToken, hcut]
        exact .inr ⟨rest, rfl, rfl, htaken, Text.cut?_eq_none_iff.mp hcut⟩
    · rw [hscan, slashToken_eq_slash fun rest hrest => hstar ⟨rest, hrest⟩] at h
      cases h
  · rw [hscan] at h
    cases h
  · rw [hscan] at h
    cases h

/-- **What is scanned is the first token**: the longest text that any kind of token can have, or
what is left of a string or comment that is not closed. -/
theorem scan_firstToken (c : Char) (cs : Text) :
    FirstToken (scan c cs).kind (scan c cs).taken (c :: cs) := by
  have hbegins : (scan c cs).taken <+: c :: cs := ⟨_, scan_append c cs⟩
  by_cases hbroken : (scan c cs).kind = .broken
  · rcases scan_broken hbroken with ⟨hquote, hscan⟩ | ⟨rest, rfl, rfl, htaken, hopen⟩
    · rw [hbroken]
      refine .openString hquote ?_ hbegins ?_
      · rw [hscan]
        exact ⟨_, rfl⟩
      · -- a closed string at the start would have been scanned to its end
        rintro text htext ⟨more, happend⟩
        have hstring : (scan c cs).kind = .string := by
          rcases htext with htext | htext
          · rw [scan_quoted (.inl rfl) htext happend]
          · rw [scan_quoted (.inr rfl) htext happend]
        rw [hbroken] at hstring
        cases hstring
    · rw [hbroken, htaken]
      exact .openComment ⟨rest, rfl⟩ (List.prefix_refl _) hopen
  · refine .longest (scan_mem_pattern hbroken) hbegins ?_
    rintro other text htext ⟨more, happend⟩
    exact length_le_of_pattern htext happend

end StyleAudit.Css
